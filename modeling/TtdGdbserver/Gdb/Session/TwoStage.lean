import TtdGdbserver.Gdb.Session.Steady

/-!
# The exit is reported in two stages

An interrupt request that falls between the end-state store of a worker and its
flag swap replaces the exit stop, and the next forward resume reports an exit
that was never announced.  As long as no exit stop is lost, the real exit comes
second.
-/

namespace TtdGdbserver.Gdb

open TtdGdbserver.Transition
open TtdGdbserver.Target

variable {β ε : Type} {target : DebugTarget β ε}

/-- The step loses no exit stop: no interrupt request replaces one, no start
drops one, and no restart overtakes an exit reply. -/
def Session.keepsExitStop (session : Session β) (label : SessionLabel β ε) : Bool :=
  match label with
  | .worker number _ =>
      match session.runner.workers[number]? with
      | some ⟨_, .swapping stop⟩ =>
          !(session.runner.interrupted && session.runner.shared.endState && stop.isKill)
      | _ => true
  | .proceed =>
      match session.stage with
      | .starting .. =>
          !(!session.runner.inFlight && session.runner.shared.endState &&
            session.runner.pendingStop.any MultiThreadStopReason.isKill)
      | .clearing => !session.runner.pendingStop.any MultiThreadStopReason.isExited
      | _ => true
  | _ => true

/-! ## Steps of a session -/

/-- Where a command stands, the flags are as its branches found them. -/
inductive Standing (runner : TargetRunner β) : SessionStage → Prop
  | idle : Standing runner .idle
  | finished : Standing runner .finished
  | loading (op : ReplayOp) : Standing runner (.loading op)
  | trying (destination : Option (Except DebugError Ttd.TtdPosition)) :
      Standing runner (.trying destination)
  | leaving {op : ReplayOp} (backward : op.isForward = false) : Standing runner (.leaving op)
  | starting {job onInterrupt : Job} (launch : Launch job onInterrupt)
      (ended : job = .exiting → runner.shared.endState = true)
      (left_ : ∀ op : ReplayOp, job = .replay op → op.isForward = false →
        runner.shared.endState = true → Carrying runner) :
      Standing runner (.starting job onInterrupt)
  | locking {destination : Option (Except DebugError Ttd.TtdPosition)}
      (idle : runner.replayRunning = false) : Standing runner (.locking destination)
  | jumping {destination : Option (Except DebugError Ttd.TtdPosition)}
      (idle : runner.replayRunning = false) : Standing runner (.jumping destination)
  | releasing {moved : Bool} (idle : runner.replayRunning = false) :
      Standing runner (.releasing moved)
  | clearing (idle : runner.replayRunning = false) : Standing runner .clearing

/-- What holds between two steps of a session. -/
structure Sound (session : Session β) : Prop where
  steady : Steady session.runner
  stage : Standing session.runner session.stage

variable {session after : Session β} {stage : SessionStage}

theorem advance_one {action : LoopAction Job (Choice β ε)}
    (stepEq : session.advance target [action] stage = some after) :
    ∃ runner, session.runner.loopStep (workload target) action = some runner ∧
      after = { session with runner := runner, stage := stage } := by
  simp only [Session.advance, List.map_cons, List.map_nil, exec_cons, exec_nil, Runner.step,
    Option.map_eq_some_iff, Option.bind_eq_some_iff, Option.some.injEq] at stepEq
  obtain ⟨_, ⟨runner, loopEq, rfl⟩, rfl⟩ := stepEq
  exact ⟨runner, loopEq, rfl⟩

theorem advance_two {first second : LoopAction Job (Choice β ε)}
    (stepEq : session.advance target [first, second] stage = some after) :
    ∃ middle runner, session.runner.loopStep (workload target) first = some middle ∧
      middle.loopStep (workload target) second = some runner ∧
      after = { session with runner := runner, stage := stage } := by
  simp only [Session.advance, List.map_cons, List.map_nil, exec_cons, exec_nil, Runner.step,
    Option.map_eq_some_iff, Option.bind_eq_some_iff, Option.some.injEq] at stepEq
  obtain ⟨_, ⟨middle, firstEq, runner, secondEq, rfl⟩, rfl⟩ := stepEq
  exact ⟨middle, runner, firstEq, secondEq, rfl⟩

theorem advance_nil (stepEq : session.advance target [] stage = some after) :
    after = { session with stage := stage } := by
  simp only [Session.advance, List.map_nil, exec_nil, Option.map_some, Option.some.injEq] at stepEq
  exact stepEq.symm

/-- A launch by `spawn_replay`. -/
theorem launch_replay (op : ReplayOp) : Launch (.replay op) (.stopping .sigInt) :=
  ⟨rfl, rfl, by simp⟩

theorem launch_exiting : Launch .exiting .exiting :=
  ⟨rfl, rfl, fun _ => rfl⟩

theorem launch_stopping (signal : Signal) : Launch (.stopping signal) (.stopping signal) :=
  ⟨rfl, rfl, by simp⟩

/-- The first steps of `spawn_replay` touch the flags of the event loop only. -/
theorem sound_spawnReplay (session : Session β) (steady : Steady session.runner)
    (op : ReplayOp) : Sound (session.spawnReplay op) := by
  unfold Session.spawnReplay
  split
  · split
    · exact ⟨steady, .starting (launch_stopping _) (by simp) (by simp)⟩
    · exact ⟨steady, .loading op⟩
  · exact ⟨steady, .loading op⟩

theorem Sound.handle (sound : Sound session) (command : Command) :
    Sound (session.handle command) := by
  cases command with
  | clearResumeActions => exact ⟨sound.steady, sound.stage⟩
  | setResumeActionContinue tid => exact ⟨sound.steady, sound.stage⟩
  | setResumeActionStep tid => exact ⟨sound.steady, sound.stage⟩
  | setResumeActionRangeStep tid start finish => exact ⟨sound.steady, sound.stage⟩
  | resume =>
      exact sound_spawnReplay { session with resume := session.resume.take.2 } sound.steady
        session.resume.take.1
  | reverseCont => exact sound_spawnReplay session sound.steady _
  | reverseStep tid => exact sound_spawnReplay session sound.steady _
  | run destination => exact ⟨sound.steady, .trying _⟩
  | restart => exact ⟨sound.steady, .trying _⟩

/-- A call that neither accepts a job nor accesses the end state. -/
theorem Sound.call {action : LoopAction Job (Choice β ε)} (sound : Sound session)
    (stays : action ≠ .intoBackend) (noAccess : ∀ choice, action ≠ .access choice)
    (noAccept : ∀ job onInterrupt, action = .start job onInterrupt →
      session.runner.replayRunning = true)
    (stepEq : session.advance target [action] stage = some after) :
    Steady after.runner ∧ after.stage = stage ∧
      after.runner.replayRunning = session.runner.replayRunning ∧
      after.runner.shared.endState = session.runner.shared.endState := by
  obtain ⟨runner, loopEq, rfl⟩ := advance_one stepEq
  obtain ⟨steady, running, endState⟩ := sound.steady.turned
    (sound.steady.exclusive.loopStep loopEq) stays noAccess noAccept
    (Runner.turned_loopStep loopEq)
  exact ⟨steady, rfl, running, endState⟩

/-- A resume looks at the end state. -/
theorem Sound.load {op : ReplayOp} (sound : Sound session)
    (stepEq : (if session.runner.shared.endState then
        if op.isForward then session.advance target [] (.starting .exiting .exiting)
        else session.advance target [] (.leaving op)
      else session.advance target [] (.starting (.replay op) (.stopping .sigInt))) = some after) :
    Sound after := by
  split at stepEq
  · rename_i up
    split at stepEq
    · rw [advance_nil stepEq]
      exact ⟨sound.steady, .starting launch_exiting (fun _ => up) (by simp)⟩
    · rename_i backward
      rw [advance_nil stepEq]
      exact ⟨sound.steady, .leaving (by simpa using backward)⟩
  · rename_i down
    rw [advance_nil stepEq]
    exact ⟨sound.steady, .starting (launch_replay op) (by simp) fun _ _ _ up => absurd up down⟩

/-- A backward resume leaves the end state. -/
theorem Sound.leave {op : ReplayOp} (sound : Sound session)
    (stepEq : session.advance target [.access .leaveEndState]
      (.starting (.replay op) (.stopping .sigInt)) = some after) : Sound after := by
  obtain ⟨runner, loopEq, rfl⟩ := advance_one stepEq
  have exclusive := sound.steady.exclusive.loopStep loopEq
  have channeled := sound.steady.channeled.turned (by simp) (Runner.turned_loopStep loopEq)
  obtain ⟨at_, rfl⟩ := Runner.accessed_loopStep loopEq
  constructor
  · refine sound.steady.aside [] exclusive channeled ?_
    exact ⟨rfl, rfl, rfl, rfl, by simp, rfl, rfl, by simp [workload]⟩
  · exact .starting (launch_replay op) (by simp) (by simp [workload])

/-- Nothing but an announced exit is behind the end state when a start drops no
exit stop. -/
theorem Sound.announced (sound : Sound session) (idle : session.runner.replayRunning = false)
    (kept : session.runner.shared.endState = true →
      session.runner.pendingStop.any MultiThreadStopReason.isKill = false) :
    (session.runner.shared.endState = true → ¬ Carrying session.runner) ∧
      (session.runner.shared.endState = true → ExitAnnounced session.runner.history) := by
  have dropped : session.runner.shared.endState = true → ¬ Carrying session.runner := by
    intro up carrying
    have pending := pendingStop_of_carrying sound.steady idle carrying
    rw [kept up] at pending
    contradiction
  refine ⟨dropped, ?_⟩
  intro up
  rcases sound.steady.told up with announced | carrying
  · exact announced
  · exact absurd carrying (dropped up)

/-- A job other than a backward replay is accepted. -/
theorem Sound.accept {job onInterrupt : Job} (sound : Sound session)
    (launch : Launch job onInterrupt) (idle : session.runner.replayRunning = false)
    (announced : session.runner.shared.endState = true → ExitAnnounced session.runner.history)
    (ended : job = .exiting → session.runner.shared.endState = true)
    (stepEq : session.advance target [.start job onInterrupt] .idle = some after) :
    Sound after := by
  obtain ⟨runner, loopEq, rfl⟩ := advance_one stepEq
  have exclusive := sound.steady.exclusive.loopStep loopEq
  have channeled := sound.steady.channeled.turned (by simp) (Runner.turned_loopStep loopEq)
  obtain ⟨ready, rfl⟩ := Runner.accepted_loopStep idle loopEq
  have stays : ∀ event ∈ [(Event.accepted session.runner.workers.length : SessionEvent)],
      event.leavesExit = false := by simp [Event.leavesExit]
  refine ⟨sound.steady.launched _ launch exclusive channeled rfl rfl rfl
    (by simp [Event.deliveredJob]) ?_ ?_, .idle⟩
  · exact fun up => (announced up).append stays
  · exact fun exiting => (announced (ended exiting)).append stays

/-- A backward replay is accepted with the end state down. -/
theorem Sound.acceptBackward {op : ReplayOp} {onInterrupt : Job} (sound : Sound session)
    (launch : Launch (.replay op) onInterrupt) (idle : session.runner.replayRunning = false)
    (down : session.runner.shared.endState = false)
    (stepEq : session.advance target
      [.access (.note .backward), .start (.replay op) onInterrupt] .idle = some after) :
    Sound after := by
  obtain ⟨middle, runner, noteEq, loopEq, rfl⟩ := advance_two stepEq
  have exclusive := (sound.steady.exclusive.loopStep noteEq).loopStep loopEq
  have channeled := (sound.steady.channeled.turned (by simp)
    (Runner.turned_loopStep noteEq)).turned (by simp) (Runner.turned_loopStep loopEq)
  obtain ⟨ready, rfl⟩ := Runner.accessed_loopStep noteEq
  obtain ⟨_, rfl⟩ := Runner.accepted_loopStep (by exact idle) loopEq
  refine ⟨sound.steady.launched [.loopNote .backward, .accepted session.runner.workers.length]
    launch exclusive channeled rfl rfl ?_ ?_ ?_ ?_, .idle⟩
  · simp [workload]
  · simp [Event.deliveredJob]
  · intro up
    change session.runner.shared.endState = true at up
    rw [down] at up
    contradiction
  · simp

/-- A job is accepted, and no exit stop is dropped for it. -/
theorem Sound.start {job onInterrupt : Job} (sound : Sound session)
    (at_ : session.stage = .starting job onInterrupt)
    (idle : session.runner.replayRunning = false)
    (kept : session.runner.shared.endState = true →
      session.runner.pendingStop.any MultiThreadStopReason.isKill = false)
    (stepEq : session.advance target (job.startNotes ++ [.start job onInterrupt]) .idle =
      some after) : Sound after := by
  obtain ⟨dropped, announced⟩ := sound.announced idle kept
  have standing := sound.stage
  rw [at_] at standing
  cases standing with
  | starting launch ended left_ =>
      cases job with
      | replay op =>
          cases forward : op.isForward with
          | true =>
              simp only [Job.startNotes, forward, if_true, List.nil_append] at stepEq
              exact sound.accept launch idle announced ended stepEq
          | false =>
              simp only [Job.startNotes, forward, Bool.false_eq_true, if_false,
                List.singleton_append] at stepEq
              apply sound.acceptBackward launch idle _ stepEq
              rw [Bool.eq_false_iff]
              intro up
              exact dropped up (left_ op rfl forward up)
      | _ => exact sound.accept launch idle announced ended stepEq

/-- A restart clears the end state. -/
theorem Sound.clear (sound : Sound session) (idle : session.runner.replayRunning = false)
    (none_ : session.runner.pendingStop.any MultiThreadStopReason.isExited = false)
    (stepEq : { session with restartPending := true }.advance target [.access .clearEndState]
      .idle = some after) : Sound after := by
  obtain ⟨runner, loopEq, rfl⟩ := advance_one stepEq
  have exclusive := sound.steady.exclusive.loopStep loopEq
  have channeled := sound.steady.channeled.turned (by simp) (Runner.turned_loopStep loopEq)
  obtain ⟨at_, next_eq⟩ := Runner.accessed_loopStep loopEq
  exact ⟨sound.steady.cleared at_ idle none_ exclusive channeled next_eq, .idle⟩

/-- The jump of a restart. -/
theorem Sound.jump {destination : Except DebugError Ttd.TtdPosition} (sound : Sound session)
    (idle : session.runner.replayRunning = false)
    (stepEq : session.jump target destination = some after) : Sound after := by
  cases destination with
  | error error =>
      have stayed : session.advance target [] (.releasing false) = some after := stepEq
      cases advance_nil stayed
      exact ⟨sound.steady, .releasing idle⟩
  | ok destination =>
      obtain ⟨steady, stage, running, _⟩ := sound.call (by simp) (by simp) (by simp) stepEq
      refine ⟨steady, ?_⟩
      rw [stage]
      exact .releasing (running.trans idle)

/-- The next step of a command. -/
theorem Sound.proceed (sound : Sound session)
    (kept : session.keepsExitStop (.proceed : SessionLabel β ε) = true)
    (stepEq : session.proceed target = some after) : Sound after := by
  have standing := sound.stage
  unfold Session.proceed at stepEq
  unfold Session.keepsExitStop at kept
  cases at_ : session.stage with
  | idle => simp [at_] at stepEq
  | finished => simp [at_] at stepEq
  | loading op =>
      simp only [at_] at stepEq
      exact sound.load stepEq
  | leaving op =>
      simp only [at_] at stepEq
      exact sound.leave stepEq
  | starting job onInterrupt =>
      simp only [at_] at stepEq kept
      split at stepEq
      · rename_i flying
        obtain ⟨steady, stage, _⟩ := sound.call (by simp) (by simp) (fun _ _ _ => flying) stepEq
        refine ⟨steady, ?_⟩
        rw [stage]
        exact .finished
      · rename_i idle
        rw [Bool.not_eq_true] at idle
        apply sound.start at_ idle _ stepEq
        intro up
        simpa [idle, up] using kept
  | trying destination =>
      simp only [at_] at stepEq
      obtain ⟨steady, stage, running, _⟩ := sound.call (by simp) (by simp) (by simp) stepEq
      refine ⟨steady, ?_⟩
      rw [stage]
      split
      · exact .idle
      · rename_i idle
        rw [Bool.not_eq_true] at idle
        exact .locking (running.trans idle)
  | locking destination =>
      simp only [at_] at stepEq standing
      obtain ⟨steady, stage, running, _⟩ := sound.call (by simp) (by simp) (by simp) stepEq
      cases standing with
      | locking idle =>
          refine ⟨steady, ?_⟩
          rw [stage]
          exact .jumping (running.trans idle)
  | jumping destination =>
      simp only [at_] at stepEq standing
      cases standing with
      | jumping idle => exact sound.jump idle stepEq
  | releasing moved =>
      simp only [at_] at stepEq standing
      obtain ⟨steady, stage, running, _⟩ := sound.call (by simp) (by simp) (by simp) stepEq
      cases standing with
      | releasing idle =>
          refine ⟨steady, ?_⟩
          rw [stage]
          cases moved with
          | true => exact .clearing (running.trans idle)
          | false => exact .idle
  | clearing =>
      simp only [at_] at stepEq standing kept
      cases standing with
      | clearing idle => exact sound.clear idle (by simpa using kept) stepEq

/-- A worker does not disturb the command being handled. -/
theorem Standing.worked {runner next : TargetRunner β} (standing : Standing runner stage)
    (landed : runner.replayRunning = false → next.replayRunning = false)
    (kept : runner.shared.endState = true → next.shared.endState = true)
    (carried : next.shared.endState = true →
      (runner.shared.endState = true → Carrying runner) → Carrying next) :
    Standing next stage := by
  cases standing with
  | idle => exact .idle
  | finished => exact .finished
  | loading op => exact .loading op
  | trying destination => exact .trying destination
  | leaving backward => exact .leaving backward
  | starting launch ended left_ =>
      refine .starting launch (fun exiting => kept (ended exiting)) ?_
      intro op replay backward up
      exact carried up (left_ op replay backward)
  | locking idle => exact .locking (landed idle)
  | jumping idle => exact .jumping (landed idle)
  | releasing idle => exact .releasing (landed idle)
  | clearing idle => exact .clearing (landed idle)

/-- A step of a worker. -/
theorem Sound.worker {number : Nat} {env : ε} (sound : Sound session)
    (kept : session.keepsExitStop (.worker number env : SessionLabel β ε) = true)
    (stepEq : Session.step target session (.worker number env) = some after) : Sound after := by
  simp only [Session.step, Option.map_eq_some_iff] at stepEq
  obtain ⟨runner, runEq, rfl⟩ := stepEq
  have exclusive := sound.steady.exclusive.step runEq
  simp only [Runner.step] at runEq
  split at runEq
  · contradiction
  · rename_i worker found
    have moving : worker.stage ≠ .done := by
      intro done
      simp [Runner.workerStep, done] at runEq
    obtain ⟨stage, events, acted⟩ := Runner.acted_workerStep runEq
    have law := sound.steady.laws number worker found
    obtain ⟨written, workers, worked⟩ := worked_workerStep law runEq
    have inside : number < session.runner.workers.length :=
      (List.getElem?_eq_some_iff.mp found).1
    have same := stage_eq_of_acted inside acted workers
    subst same
    have unreplaced : ∀ result : MultiThreadStopReason, worker.stage = .swapping result →
        result.isKill = true → session.runner.shared.endState = true →
          session.runner.interrupted = false := by
      intro result swapping kill up
      rcases worker with ⟨handler, stage⟩
      change stage = .swapping result at swapping
      subst swapping
      simpa [Session.keepsExitStop, found, kill, up] using kept
    obtain ⟨steady, carried⟩ := sound.steady.worked found moving exclusive unreplaced acted worked
    refine ⟨steady, sound.stage.worked ?_ worked.kept carried⟩
    intro idle
    have held := (sound.steady.exclusive.workerGuard number worker found).mp
    obtain ⟨_, moved⟩ := Runner.moved_workerStep held runEq
    rw [moved.running, idle]
    rfl

/-- A call between two commands. -/
theorem Sound.between {action : LoopAction Job (Choice β ε)} (sound : Sound session)
    (stepEq : Session.step target session (.call action) = some after) : Sound after := by
  simp only [Session.step] at stepEq
  split at stepEq
  · split at stepEq
    · rename_i between
      obtain ⟨steady, stage, _⟩ := sound.call (by rintro rfl; contradiction)
        (by rintro choice rfl; contradiction) (by rintro job onInterrupt rfl; contradiction) stepEq
      refine ⟨steady, ?_⟩
      rw [stage]
      exact .idle
    · contradiction
  · contradiction

/-- Every step that loses no exit stop. -/
theorem Sound.step {label : SessionLabel β ε} (sound : Sound session)
    (kept : session.keepsExitStop label = true)
    (stepEq : Session.step target session label = some after) : Sound after := by
  cases label with
  | worker number env => exact sound.worker kept stepEq
  | call action => exact sound.between stepEq
  | command command =>
      simp only [Session.step] at stepEq
      split at stepEq
      · cases stepEq
        exact sound.handle command
      · contradiction
  | proceed => exact sound.proceed kept stepEq

/-- In every run of a session that loses no exit stop, the real exit is
delivered only after its announcement. -/
theorem twoStage_of_run {backend : β} {labels : List (SessionLabel β ε)}
    (run : Run (Session.step target) (fun session label => session.keepsExitStop label = true)
      (Session.new backend) labels after) : TwoStage after.runner.history := by
  have sound := run.invariant ⟨steady_new backend, .idle⟩
    fun sound kept stepEq => Sound.step sound kept stepEq
  exact sound.steady.twoStage

/-! ## Runs -/

/-- The stops delivered to the client. -/
def deliveredStops (history : List SessionEvent) : List MultiThreadStopReason :=
  history.filterMap fun
    | .delivered _ (.ok stop) => some stop
    | _ => none

theorem mem_deliveredStops {history : List SessionEvent} {stop : MultiThreadStopReason} :
    stop ∈ deliveredStops history ↔ ∃ number, .delivered number (.ok stop) ∈ history := by
  simp only [deliveredStops, List.mem_filterMap]
  constructor
  · rintro ⟨event, present, found⟩
    split at found
    · cases found
      exact ⟨_, present⟩
    · contradiction
  · rintro ⟨number, present⟩
    exact ⟨_, present, rfl⟩

/-- An exit that nothing announced. -/
theorem not_twoStage {history : List SessionEvent} (code : UInt8)
    (exited : .exited code ∈ deliveredStops history)
    (silent : ∀ tid, .signalWithThread tid .sigKill ∉ deliveredStops history) :
    ¬ TwoStage history := by
  intro twoStage
  obtain ⟨number, present⟩ := mem_deliveredStops.mp exited
  obtain ⟨before, after, rfl⟩ := List.append_of_mem present
  obtain ⟨front, first, tid, rest, rfl, _⟩ := twoStage before _ after rfl number code rfl
  exact silent tid (mem_deliveredStops.mpr ⟨first, by simp⟩)

/-- A resume command, with a request of the client after some steps of the
worker. -/
def resumeRun (command : Command) (handling number before : Nat)
    (requests : List (SessionLabel Script Unit)) (after : Nat) :
    List (SessionLabel Script Unit) :=
  [.command command] ++ List.replicate handling .proceed ++
    List.replicate 7 (.call .proceed) ++ List.replicate before (.worker number ()) ++ requests ++
    List.replicate after (.worker number ()) ++ [.call .takeStopReason]

/-- `request_interrupt`, to its end. -/
def interruptRequest : List (SessionLabel Script Unit) :=
  [.call .requestInterrupt, .call .proceed, .call .proceed]

/-- A request between the end-state store of the worker and its flag swap, and
the next forward resume. -/
def maskedExit : List (SessionLabel Script Unit) :=
  resumeRun .resume 2 0 3 interruptRequest 7 ++ resumeRun .resume 2 1 7 [] 0

/-- The client is told of the exit without having been told that it is near. -/
theorem maskedExit_not_twoStage :
    ∃ session, exec (Session.step Script.target)
        (Session.new ⟨⟨1, 0⟩, [.returned (.ok .processExit)]⟩) maskedExit = some session ∧
      deliveredStops session.runner.history =
        [.signalWithThread ⟨100, by decide⟩ .sigInt, .exited 0] ∧
      ¬ TwoStage session.runner.history := by
  have ends : (exec (Session.step Script.target)
      (Session.new ⟨⟨1, 0⟩, [.returned (.ok .processExit)]⟩) maskedExit).map
      (fun session => deliveredStops session.runner.history) =
        some [.signalWithThread ⟨100, by decide⟩ .sigInt, .exited 0] := by decide
  obtain ⟨session, executed, stops⟩ := Option.map_eq_some_iff.mp ends
  refine ⟨session, executed, stops, not_twoStage 0 ?_ ?_⟩
  · rw [stops]
    simp
  · rw [stops]
    simp

/-- A request before the exit is reached, the exit in two stages, a backward
step out of it, the exit again and a restart. -/
def announcedExit : List (SessionLabel Script Unit) :=
  resumeRun .resume 2 0 1 interruptRequest 9 ++ resumeRun .resume 2 1 9 [] 0 ++
    resumeRun .resume 2 2 7 [] 0 ++ resumeRun .reverseCont 3 3 9 [] 0 ++
    resumeRun .resume 2 4 9 [] 0 ++ [.command (.run (.ok ⟨5, 0⟩))] ++
    List.replicate 5 .proceed ++ resumeRun .resume 1 5 7 [] 0

theorem announcedExit_twoStage :
    ∃ session, exec (restrict (Session.step Script.target)
        (fun session label => session.keepsExitStop label = true))
        (Session.new ⟨⟨1, 0⟩, [.returned (.ok .interrupted), .returned (.ok .processExit),
          .returned (.ok .stepComplete), .returned (.ok .processExit)]⟩) announcedExit =
            some session ∧
      deliveredStops session.runner.history =
        [.signalWithThread ⟨100, by decide⟩ .sigInt,
          .signalWithThread ⟨100, by decide⟩ .sigKill, .exited 0,
          .signalWithThread ⟨100, by decide⟩ .sigTrap,
          .signalWithThread ⟨100, by decide⟩ .sigKill,
          .signalWithThread ⟨100, by decide⟩ .sigTrap] ∧
      TwoStage session.runner.history := by
  have ends : (exec (restrict (Session.step Script.target)
      (fun session label => session.keepsExitStop label = true))
      (Session.new ⟨⟨1, 0⟩, [.returned (.ok .interrupted), .returned (.ok .processExit),
        .returned (.ok .stepComplete), .returned (.ok .processExit)]⟩) announcedExit).map
      (fun session => deliveredStops session.runner.history) =
        some [.signalWithThread ⟨100, by decide⟩ .sigInt,
          .signalWithThread ⟨100, by decide⟩ .sigKill, .exited 0,
          .signalWithThread ⟨100, by decide⟩ .sigTrap,
          .signalWithThread ⟨100, by decide⟩ .sigKill,
          .signalWithThread ⟨100, by decide⟩ .sigTrap] := by decide
  obtain ⟨session, executed, stops⟩ := Option.map_eq_some_iff.mp ends
  exact ⟨session, executed, stops, twoStage_of_run (run_of_exec_restrict executed)⟩

end TtdGdbserver.Gdb
