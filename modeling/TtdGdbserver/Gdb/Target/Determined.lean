import TtdGdbserver.Gdb.Target.Dispatch

/-!
# The history determines every resume

The three flags of the target are functions of the history of commands, and
what a resume does is a function of the flags.
-/

namespace TtdGdbserver.Gdb

open TtdGdbserver.Transition
open TtdGdbserver.Ttd
open TtdGdbserver.Target

variable {β ε : Type} {target : DebugTarget β ε}

/-! ## Jobs that nobody disturbs -/

section Jobs

variable {choices : List ε} {op : ReplayOp} {reason : Except DebugError StopReason}
variable {shared final : Shared β} {ending : Ending MultiThreadStopReason} {notes : List Note}

theorem complete_mapping
    (done : (workload target).complete (choices.map .environment) (.mapping reason) shared =
      some (ending, final, notes)) :
    notes = [] ∧ final.endState = shared.endState := by
  rcases choices with _ | ⟨env, choices⟩
  · contradiction
  · obtain ⟨rfl, rfl, rfl⟩ := Workload.complete_ended rfl done
    exact ⟨rfl, rfl⟩

theorem complete_reporting
    (done : (workload target).complete (choices.map .environment) (.reporting op reason) shared =
      some (ending, final, notes)) :
    notes = [] ∧ final.endState = (shared.endState || reachesExit op reason) := by
  rcases choices with _ | ⟨env, choices⟩
  · contradiction
  · obtain ⟨more, rest, rfl⟩ := Workload.complete_running rfl done
    obtain ⟨rfl, same⟩ := complete_mapping rest
    refine ⟨rfl, ?_⟩
    rw [same]
    cases reachesExit op reason <;> simp

/-- A replay runs its operation once, and sets the end state exactly if the
operation reached it. -/
theorem complete_replay
    (done : (workload target).complete (choices.map .environment) (.replay op) shared =
      some (ending, final, notes)) :
    ∃ outcome, notes = [.executed op outcome] ∧
      (final.endState = true ↔ shared.endState = true ∨
        op.isForward = true ∧ outcome = .returned (.ok .processExit)) := by
  rcases choices with _ | ⟨env, choices⟩
  · contradiction
  · cases executed : executeOp target env op shared.backend with
    | none => simp [Workload.complete, workload, Job.run, executed] at done
    | some result =>
        rcases result with ⟨outcome, backend⟩
        cases outcome with
        | panicked payload =>
            have stepEq : (workload target).run (.environment env) (.replay op) shared =
                some (.ended (.panicked (.string payload)), { shared with backend := backend },
                  [.executed op (.panicked payload)]) := by
              simp [workload, Job.run, executed]
            obtain ⟨rfl, rfl, rfl⟩ := Workload.complete_ended stepEq done
            exact ⟨.panicked payload, rfl, by simp⟩
        | returned reason =>
            have stepEq : (workload target).run (.environment env) (.replay op) shared =
                some (.running (.reporting op reason), { shared with backend := backend },
                  [.executed op (.returned reason)]) := by
              simp [workload, Job.run, executed]
            obtain ⟨more, rest, rfl⟩ := Workload.complete_running stepEq done
            obtain ⟨rfl, same⟩ := complete_reporting rest
            refine ⟨.returned reason, rfl, ?_⟩
            rw [same, Bool.or_eq_true, reachesExit_iff]
            simp

theorem complete_stopping {signal : Signal}
    (done : (workload target).complete (choices.map .environment) (.stopping signal) shared =
      some (ending, final, notes)) :
    notes = [] ∧ final.endState = shared.endState ∧
      target.position final.backend = target.position shared.backend ∧
      ∃ tid, ending = .returned (.signalWithThread tid signal) := by
  rcases choices with _ | ⟨env, choices⟩
  · contradiction
  · obtain ⟨rfl, rfl, rfl⟩ := Workload.complete_ended rfl done
    exact ⟨rfl, rfl, position_stopHere target signal shared.backend, _, rfl⟩

theorem complete_exiting
    (done : (workload target).complete (choices.map .environment) .exiting shared =
      some (ending, final, notes)) :
    notes = [] ∧ final = shared ∧ ending = .returned (.exited 0) := by
  rcases choices with _ | ⟨env, choices⟩
  · contradiction
  · obtain ⟨rfl, rfl, rfl⟩ := Workload.complete_ended rfl done
    exact ⟨rfl, rfl, rfl⟩

end Jobs

/-! ## One resume -/

variable {gdb next : GdbTarget β} {op : ReplayOp} {environment : List ε}

/-- What a resume does, by the flags it meets. -/
inductive Resumed (target : DebugTarget β ε) (gdb next : GdbTarget β) (op : ReplayOp)
    (exchange : Exchange) : Prop
  /-- It stops where the restart went. -/
  | position (pending : gdb.restartPending = true) (forward : op.isForward = true)
      (quiet : exchange.executed = [])
      (kept : exchange.position = target.position gdb.shared.backend)
      (trap : ∃ tid, exchange.stop = some (.signalWithThread tid .sigTrap))
      (endState : next.shared.endState = gdb.shared.endState)
  /-- It reports the real exit. -/
  | exit (settled : gdb.restartPending = false) (forward : op.isForward = true)
      (ended : gdb.shared.endState = true) (quiet : exchange.executed = [])
      (exited : exchange.stop = some (.exited 0)) (endState : next.shared.endState = true)
  /-- It runs its operation. -/
  | replay (settled : op.isForward = true → gdb.restartPending = false)
      (running : op.isForward = true → gdb.shared.endState = false) (outcome : Executed)
      (one : exchange.executed = [(op, outcome)])
      (endState : next.shared.endState = true ↔
        op.isForward = true ∧ outcome = .returned (.ok .processExit))

/-- What a drained resume leaves behind, whatever its job. -/
structure Drained (gdb next : GdbTarget β) (command : Command) (exchange : Exchange)
    (target : DebugTarget β ε) : Prop where
  command : exchange.command = command
  restarted : exchange.restarted = false
  position : exchange.position = target.position next.shared.backend
  resume : next.resume = gdb.resume
  restartPending : next.restartPending = false

theorem drain_eq {notes : List Note} {stop : MultiThreadStopReason} {job : Job}
    (drained : gdb.drain target environment job = some (notes, stop, next)) :
    ∃ ending final, (workload target).complete (environment.map .environment) job
        ((workload target).beginResume gdb.shared) = some (ending, final, notes) ∧
      stop = (GdbTarget.mapWorkerResult target ending final.backend).1 ∧
      next = { gdb with shared := { final with
        backend := (GdbTarget.mapWorkerResult target ending final.backend).2 } } := by
  unfold GdbTarget.drain at drained
  split at drained
  · contradiction
  · rename_i ending final notes done
    cases drained
    exact ⟨ending, final, done, rfl, rfl⟩

/-- What `drain` answers is what the runner delivers, if it has nothing else to
do. -/
theorem delivers_of_drain {notes : List Note} {stop : MultiThreadStopReason} {job : Job}
    {runner : Runner (Shared β) Job Unit MultiThreadStopReason Note} (rest : runner.AtRest)
    (same : runner.shared = gdb.shared) (onInterrupt : Job)
    (drained : gdb.drain target environment job = some (notes, stop, next)) :
    ∃ labels after ending final,
      exec (Runner.step (workload target)) runner labels = some after ∧
      runner.Delivers after ending final notes ∧
      stop = (GdbTarget.mapWorkerResult target ending final.backend).1 := by
  obtain ⟨ending, final, done, stopped, -⟩ := drain_eq drained
  rw [← same] at done
  obtain ⟨labels, after, executed, delivers⟩ := rest.delivers onInterrupt done
  exact ⟨labels, after, ending, final, executed, delivers, stopped⟩

theorem resumed_position {command : Command} {exchange : Exchange}
    (pending : gdb.restartPending = true) (forward : op.isForward = true)
    (performed : gdb.resumeWith target command op environment = some (next, exchange)) :
    Drained gdb next command exchange target ∧ Resumed target gdb next op exchange := by
  simp only [GdbTarget.resumeWith, GdbTarget.spawnReplay, pending, forward, if_true,
    Option.map_eq_some_iff] at performed
  obtain ⟨⟨notes, stop, final⟩, drained, same⟩ := performed
  cases same
  obtain ⟨ending, shared, done, rfl, rfl⟩ := drain_eq drained
  obtain ⟨rfl, endState, position, tid, rfl⟩ := complete_stopping done
  refine ⟨⟨rfl, rfl, rfl, rfl, rfl⟩, .position pending forward rfl ?_ ⟨tid, rfl⟩ endState⟩
  exact position.trans (target.position_beginResume gdb.shared.backend)

theorem resumed_exit {command : Command} {exchange : Exchange}
    (settled : gdb.restartPending = false) (forward : op.isForward = true)
    (ended : gdb.shared.endState = true)
    (performed : gdb.resumeWith target command op environment = some (next, exchange)) :
    Drained gdb next command exchange target ∧ Resumed target gdb next op exchange := by
  simp only [GdbTarget.resumeWith, GdbTarget.spawnReplay, GdbTarget.spawnFromEndState, settled,
    forward, ended, if_true, Bool.false_eq_true, if_false, Option.map_eq_some_iff] at performed
  obtain ⟨⟨notes, stop, final⟩, drained, same⟩ := performed
  cases same
  obtain ⟨ending, shared, done, rfl, rfl⟩ := drain_eq drained
  obtain ⟨rfl, rfl, rfl⟩ := complete_exiting done
  exact ⟨⟨rfl, rfl, rfl, rfl, settled⟩, .exit settled forward ended rfl rfl ended⟩

/-- A replay starts with both flags down. -/
theorem spawnReplay_eq (settled : op.isForward = true → gdb.restartPending = false)
    (running : op.isForward = true → gdb.shared.endState = false) :
    ∃ middle : GdbTarget β, gdb.spawnReplay op = (.replay op, middle) ∧
      middle.resume = gdb.resume ∧ middle.restartPending = false ∧
      middle.shared.endState = false := by
  rcases gdb with ⟨⟨backend, endState⟩, resume, restartPending⟩
  cases forward : op.isForward with
  | true =>
      rw [forward] at settled running
      simp only [true_implies] at settled running
      subst settled running
      exact ⟨_, rfl, rfl, rfl, rfl⟩
  | false =>
      simp only [GdbTarget.spawnReplay, GdbTarget.spawnFromEndState, forward]
      cases restartPending <;> cases endState <;> exact ⟨_, rfl, rfl, rfl, rfl⟩

theorem resumed_replay {command : Command} {exchange : Exchange}
    (settled : op.isForward = true → gdb.restartPending = false)
    (running : op.isForward = true → gdb.shared.endState = false)
    (performed : gdb.resumeWith target command op environment = some (next, exchange)) :
    Drained gdb next command exchange target ∧ Resumed target gdb next op exchange := by
  obtain ⟨middle, spawned, resume, pending, low⟩ := spawnReplay_eq settled running
  simp only [GdbTarget.resumeWith, spawned, Option.map_eq_some_iff] at performed
  obtain ⟨⟨notes, stop, final⟩, drained, same⟩ := performed
  cases same
  obtain ⟨ending, shared, done, rfl, rfl⟩ := drain_eq drained
  obtain ⟨outcome, rfl, endState⟩ := complete_replay done
  have started : ((workload target).beginResume middle.shared).endState = false := low
  rw [started] at endState
  refine ⟨⟨rfl, rfl, rfl, resume, pending⟩, .replay settled running outcome rfl ?_⟩
  simpa using endState

/-- Every resume is one of the three kinds. -/
theorem resumed_of_resumeWith {command : Command} {exchange : Exchange}
    (performed : gdb.resumeWith target command op environment = some (next, exchange)) :
    Drained gdb next command exchange target ∧ Resumed target gdb next op exchange := by
  cases forward : op.isForward with
  | false => exact resumed_replay (by simp [forward]) (by simp [forward]) performed
  | true =>
      cases pending : gdb.restartPending with
      | true => exact resumed_position pending forward performed
      | false =>
          cases ended : gdb.shared.endState with
          | true => exact resumed_exit pending forward ended performed
          | false => exact resumed_replay (fun _ => pending) (fun _ => ended) performed

/-! ## Restarts -/

/-- What a restart leaves behind. -/
structure Restarted (gdb next : GdbTarget β) (command : Command) (exchange : Exchange)
    (target : DebugTarget β ε) : Prop where
  command : exchange.command = command
  quiet : exchange.executed = []
  position : exchange.position = target.position next.shared.backend
  resume : next.resume = gdb.resume
  /-- It succeeded. -/
  moved : exchange.restarted = true →
    next.restartPending = true ∧ next.shared.endState = false
  /-- It failed, and changed nothing. -/
  failed : exchange.restarted = false →
    next.restartPending = gdb.restartPending ∧ next.shared.endState = gdb.shared.endState ∧
      target.position next.shared.backend = target.position gdb.shared.backend

theorem restarted_quiet (command : Command) :
    Restarted gdb (gdb.quiet target command).1 command (gdb.quiet target command).2 target := by
  constructor <;> simp [GdbTarget.quiet]

theorem restarted_restartAt (command : Command) (destination : TtdPosition) :
    Restarted gdb (gdb.restartAt target command destination).1 command
      (gdb.restartAt target command destination).2 target := by
  unfold GdbTarget.restartAt
  split
  · rename_i error backend jumped
    have kept := target.position_of_goto_error gdb.shared.backend destination error
    rw [jumped] at kept
    constructor <;> simp [GdbTarget.quiet, kept rfl]
  · constructor <;> simp

theorem restarted_of_perform {command : Command} {exchange : Exchange}
    (restarts : command.isRestart = true)
    (performed : gdb.perform target command environment = some (next, exchange)) :
    Restarted gdb next command exchange target := by
  cases command with
  | run destination =>
      cases destination with
      | error error =>
          cases performed
          exact restarted_quiet _
      | ok destination =>
          have both := Prod.mk.inj (Option.some.inj performed)
          rw [← both.1, ← both.2]
          exact restarted_restartAt _ _
  | restart =>
      have both := Prod.mk.inj (Option.some.inj performed)
      rw [← both.1, ← both.2]
      exact restarted_restartAt _ _
  | _ => contradiction

section History

variable {history : List Exchange} {exchange restart : Exchange}

theorem requested_snoc_sets (set : exchange.command.sets = some op) :
    Requested (history ++ [exchange]) op := by
  have settles : exchange.Settles := by
    cases command : exchange.command <;> simp_all [Command.sets, Command.settles, Exchange.Settles]
  left
  rw [latestIs_snoc_of_kind settles]
  exact set

theorem requested_snoc_clears (settles : exchange.Settles)
    (clears : exchange.command.sets = none) :
    Requested (history ++ [exchange]) .continue := by
  right
  refine ⟨rfl, ?_⟩
  intro latest found
  rw [latest_snoc_of_kind settles] at found
  rw [found]
  exact clears

theorem requested_snoc_of_not (other : ¬ exchange.Settles) :
    Requested (history ++ [exchange]) op ↔ Requested history op := by
  unfold Requested
  rw [latestIs_snoc_of_not other]
  simp only [latest_snoc_of_not other]

/-- A resume answers the restart before it. -/
theorem not_restartStands_snoc (resumes : exchange.command.isResume = true)
    (failed : exchange.restarted = false) : ¬ RestartStands (history ++ [exchange]) restart := by
  rintro ⟨latest, restarted⟩
  have moves : exchange.Moves := Or.inr resumes
  rw [latest_snoc_of_kind moves] at latest
  rw [latest, failed] at restarted
  contradiction

theorem restartStands_snoc_restarted (restarted : exchange.restarted = true) :
    RestartStands (history ++ [exchange]) restart ↔ restart = exchange := by
  have moves : exchange.Moves := Or.inl restarted
  rw [RestartStands, latest_snoc_of_kind moves]
  constructor
  · rintro ⟨same, _⟩
    exact same
  · rintro rfl
    exact ⟨rfl, restarted⟩

theorem restartStands_snoc_of_not (other : ¬ exchange.Moves) :
    RestartStands (history ++ [exchange]) restart ↔ RestartStands history restart := by
  rw [RestartStands, latest_snoc_of_not other, RestartStands]

theorem exitReached_snoc_of_runs (runs : exchange.Runs) :
    ExitReached (history ++ [exchange]) ↔ exchange.Exits :=
  latestIs_snoc_of_kind runs

theorem exitReached_snoc_of_not (other : ¬ exchange.Runs) :
    ExitReached (history ++ [exchange]) ↔ ExitReached history :=
  latestIs_snoc_of_not other

end History

/-- The flags of the target as the history determines them. -/
structure Tracks (target : DebugTarget β ε) (gdb : GdbTarget β) (history : List Exchange) :
    Prop where
  pending : Requested history gdb.resume.pending
  forward : gdb.resume.pending.isForward = true
  restartPending : gdb.restartPending = true ↔ ∃ restart, RestartStands history restart
  /-- The backend is still where the restart went. -/
  position : ∀ restart, RestartStands history restart →
    restart.position = target.position gdb.shared.backend
  endState : gdb.shared.endState = true ↔ ExitReached history

variable {history : List Exchange} {exchange : Exchange} {command : Command}

/-- A restart command moves the flags as it does the history. -/
theorem Tracks.restarted (tracks : Tracks target gdb history)
    (restarts : command.isRestart = true)
    (restarted : Restarted gdb next command exchange target) :
    Tracks target next (history ++ [exchange]) := by
  have unsettled : ¬ exchange.Settles := by
    rw [Exchange.Settles, restarted.command]
    cases command <;> simp_all [Command.isRestart, Command.settles]
  have noResume : exchange.command.isResume = false := by
    rw [restarted.command]
    cases command <;> simp_all [Command.isRestart, Command.isResume]
  cases success : exchange.restarted with
  | true =>
      obtain ⟨pending, low⟩ := restarted.moved success
      have runs : exchange.Runs := Or.inl success
      constructor
      · rw [requested_snoc_of_not unsettled, restarted.resume]
        exact tracks.pending
      · rw [restarted.resume]
        exact tracks.forward
      · simp [pending, restartStands_snoc_restarted success]
      · intro restart stands
        rw [restartStands_snoc_restarted success] at stands
        rw [stands]
        exact restarted.position
      · rw [exitReached_snoc_of_runs runs, low]
        simp [Exchange.Exits, restarted.quiet]
  | false =>
      obtain ⟨pending, endState, position⟩ := restarted.failed success
      have still : ¬ exchange.Moves := by simp [Exchange.Moves, success, noResume]
      have idle : ¬ exchange.Runs := by simp [Exchange.Runs, success, restarted.quiet]
      constructor
      · rw [requested_snoc_of_not unsettled, restarted.resume]
        exact tracks.pending
      · rw [restarted.resume]
        exact tracks.forward
      · rw [pending, tracks.restartPending]
        simp only [restartStands_snoc_of_not still]
      · intro restart stands
        rw [restartStands_snoc_of_not still] at stands
        rw [position]
        exact tracks.position restart stands
      · rw [exitReached_snoc_of_not idle, endState]
        exact tracks.endState

/-- A command that only sets the pending action. -/
theorem Tracks.action {resume : ResumeState} (tracks : Tracks target gdb history)
    (next_eq : next = { gdb with resume := resume }) (quiet : exchange.executed = [])
    (failed : exchange.restarted = false) (noResume : exchange.command.isResume = false)
    (pending : Requested (history ++ [exchange]) resume.pending)
    (forward : resume.pending.isForward = true) :
    Tracks target next (history ++ [exchange]) := by
  have still : ¬ exchange.Moves := by simp [Exchange.Moves, failed, noResume]
  have idle : ¬ exchange.Runs := by simp [Exchange.Runs, failed, quiet]
  subst next_eq
  constructor
  · exact pending
  · exact forward
  · simp only [restartStands_snoc_of_not still]
    exact tracks.restartPending
  · intro restart stands
    rw [restartStands_snoc_of_not still] at stands
    exact tracks.position restart stands
  · rw [exitReached_snoc_of_not idle]
    exact tracks.endState

variable {middle : GdbTarget β}

/-- A resume answers a pending restart, and its execution decides about the end
state. -/
theorem Tracks.resumed (tracks : Tracks target gdb history) (shared : middle.shared = gdb.shared)
    (drained : Drained middle next command exchange target)
    (resumed : Resumed target middle next op exchange) (resumes : command.isResume = true)
    (pending : Requested (history ++ [exchange]) next.resume.pending)
    (forward : next.resume.pending.isForward = true) :
    Tracks target next (history ++ [exchange]) := by
  have answered : ∀ restart, ¬ RestartStands (history ++ [exchange]) restart := by
    intro restart
    apply not_restartStands_snoc _ drained.restarted
    rw [drained.command]
    exact resumes
  have endState : next.shared.endState = true ↔ ExitReached (history ++ [exchange]) := by
    have before := tracks.endState
    rw [← shared] at before
    cases resumed with
    | position _ _ quiet _ _ endState =>
        have idle : ¬ exchange.Runs := by simp [Exchange.Runs, drained.restarted, quiet]
        rw [exitReached_snoc_of_not idle, endState]
        exact before
    | exit _ _ ended quiet _ endState =>
        have idle : ¬ exchange.Runs := by simp [Exchange.Runs, drained.restarted, quiet]
        rw [exitReached_snoc_of_not idle, endState, ← before, ended]
    | replay _ _ outcome one endState =>
        have runs : exchange.Runs := by simp [Exchange.Runs, one]
        rw [exitReached_snoc_of_runs runs, endState]
        simp [Exchange.Exits, one]
  constructor
  · exact pending
  · exact forward
  · rw [drained.restartPending]
    simp [answered]
  · intro restart stands
    exact absurd stands (answered restart)
  · exact endState

/-- What a resume does is what the history before it says. -/
theorem determined_of_resumed (tracks : Tracks target gdb history)
    (shared : middle.shared = gdb.shared) (same : middle.restartPending = gdb.restartPending)
    (resumed : Resumed target middle next op exchange)
    (chosen : Chosen history exchange.command op)
    (agrees : exchange.command.isForward = op.isForward) : Determined history exchange := by
  have standing := tracks.restartPending
  have ended := tracks.endState
  rw [← same] at standing
  rw [← shared] at ended
  cases resumed with
  | position pending _ quiet kept trap _ =>
      obtain ⟨restart, stands⟩ := standing.mp pending
      constructor
      · intro _ other standsOther
        refine ⟨quiet, ?_, trap⟩
        rw [kept, shared]
        exact (tracks.position other standsOther).symm
      · intro _ none_
        exact absurd stands (none_ restart)
      · intro _ elsewhere
        have forward : exchange.command.isForward = true := by rwa [agrees]
        exact absurd stands ((elsewhere forward).1 restart)
  | exit settled forward up quiet exited _ =>
      have none_ : ∀ restart, ¬ RestartStands history restart := by
        intro restart stands
        have pending := standing.mpr ⟨restart, stands⟩
        rw [settled] at pending
        contradiction
      have reached := ended.mp up
      constructor
      · intro _ restart stands
        exact absurd stands (none_ restart)
      · intro _ _
        simp [quiet, exited, reached]
      · intro _ elsewhere
        exact absurd reached (elsewhere (by rwa [agrees])).2
  | replay settled running outcome one _ =>
      constructor
      · intro forward restart stands
        have pending := standing.mpr ⟨restart, stands⟩
        rw [settled (by rwa [← agrees])] at pending
        contradiction
      · intro forward _
        have low := running (by rwa [← agrees])
        rw [← ended, low]
        simp [one]
      · intro _ _
        exact ⟨op, outcome, chosen, one⟩

theorem determined_of_not_isResume (other : exchange.command.isResume = false) :
    Determined history exchange := by
  have backward : exchange.command.isForward = false := by
    cases command : exchange.command <;> simp_all [Command.isResume, Command.isForward]
  constructor
  · simp [backward]
  · simp [backward]
  · simp [other]

/-- A reverse command leaves the pending action for the next `resume`. -/
theorem Tracks.reversed (tracks : Tracks target gdb history) (resumes : command.isResume = true)
    (unsettled : command.settles = false) (backward : command.isForward = false)
    (runsBackward : op.isForward = false) (chosen : Chosen history command op)
    (performed : gdb.resumeWith target command op environment = some (next, exchange)) :
    Tracks target next (history ++ [exchange]) ∧ Determined history exchange := by
  obtain ⟨drained, resumed⟩ := resumed_of_resumeWith performed
  have still : ¬ exchange.Settles := by simp [Exchange.Settles, drained.command, unsettled]
  constructor
  · apply tracks.resumed rfl drained resumed resumes
    · rw [drained.resume, requested_snoc_of_not still]
      exact tracks.pending
    · rw [drained.resume]
      exact tracks.forward
  · apply determined_of_resumed tracks rfl rfl resumed
    · rw [drained.command]
      exact chosen
    · rw [drained.command, backward, runsBackward]

/-- Every command does what the history says, and moves the flags with it. -/
theorem Tracks.perform (tracks : Tracks target gdb history)
    (performed : gdb.perform target command environment = some (next, exchange)) :
    Tracks target next (history ++ [exchange]) ∧ Determined history exchange := by
  cases command with
  | clearResumeActions =>
      cases performed
      exact ⟨tracks.action rfl rfl rfl rfl (requested_snoc_clears rfl rfl) rfl,
        determined_of_not_isResume rfl⟩
  | setResumeActionContinue tid =>
      cases performed
      refine ⟨tracks.action rfl rfl rfl rfl ?_ tracks.forward, determined_of_not_isResume rfl⟩
      rw [requested_snoc_of_not (by simp [Exchange.Settles, Command.settles])]
      exact tracks.pending
  | setResumeActionStep tid =>
      cases performed
      exact ⟨tracks.action rfl rfl rfl rfl (requested_snoc_sets rfl) rfl,
        determined_of_not_isResume rfl⟩
  | setResumeActionRangeStep tid start finish =>
      cases performed
      refine ⟨tracks.action rfl rfl rfl rfl (requested_snoc_sets rfl) ?_,
        determined_of_not_isResume rfl⟩
      unfold ResumeState.setRangeStep
      split <;> rfl
  | resume =>
      obtain ⟨drained, resumed⟩ := resumed_of_resumeWith performed
      have settles : exchange.Settles := by rw [Exchange.Settles, drained.command]; rfl
      have clears : exchange.command.sets = none := by rw [drained.command]; rfl
      constructor
      · apply tracks.resumed (by rfl) drained resumed rfl
        · rw [drained.resume]
          exact requested_snoc_clears settles clears
        · rw [drained.resume]
          rfl
      · apply determined_of_resumed tracks (by rfl) (by rfl) resumed
        · rw [drained.command]
          exact .resume tracks.pending
        · rw [drained.command]
          exact tracks.forward.symm
  | reverseCont => exact tracks.reversed rfl rfl rfl rfl .reverseCont performed
  | reverseStep tid => exact tracks.reversed rfl rfl rfl rfl .reverseStep performed
  | run destination =>
      have restarted := restarted_of_perform rfl performed
      refine ⟨tracks.restarted rfl restarted, determined_of_not_isResume ?_⟩
      rw [restarted.command]
      rfl
  | restart =>
      have restarted := restarted_of_perform rfl performed
      refine ⟨tracks.restarted rfl restarted, determined_of_not_isResume ?_⟩
      rw [restarted.command]
      rfl

/-! ## Every run -/

end TtdGdbserver.Gdb
