import TtdGdbserver.Gdb.Restart
import TtdGdbserver.Gdb.Session.Progress

/-!
# The server

`serve_sessions` hands the backend and the checkpoint table from one session to
the next.  A client may leave at any moment, and the workers of a session may
outlive it: `into_backend` waits until they have given the backend back.
-/

namespace TtdGdbserver.Gdb

open TtdGdbserver.Text
open TtdGdbserver.Transition
open TtdGdbserver.Ttd
open TtdGdbserver.Target

variable {β ε : Type}

/-- Why the server could not go on. -/
inductive ServeError where
  | listener
  | connection
  | backendRecovery
  deriving DecidableEq, Repr

/-- Where `serve_sessions` stands, with the backend it owns. -/
inductive ServerStage (β : Type) where
  /-- About to configure the listener. -/
  | binding (backend : β)
  /-- At the head of the loop, about to read the shutdown flag. -/
  | looping (backend : β)
  | accepting (backend : β)
  /-- In `run_gdb_session`. -/
  | serving (session : Session β)
  /-- The client has left, and `into_backend` is under way. -/
  | leaving (runner : TargetRunner β)
  /-- After a session, about to decide whether to go on. -/
  | closed (backend : β)
  /-- No client was there, and the shutdown flag is about to be read again. -/
  | waiting (backend : β)
  /-- The loop ended and returned the backend. -/
  | stopped (backend : β)
  | failed (error : ServeError)

/-- A server, with the session in progress and the workers that outlive theirs. -/
structure Server (β : Type) where
  /-- Whether the server goes on after the first session. -/
  persist : Bool
  stage : ServerStage β
  checkpoints : CheckpointTable
  /-- The runners of earlier sessions.  Their workers may still be winding down. -/
  past : List (TargetRunner β)
  /-- Some `into_backend` has run into its deadline. -/
  gaveUp : Bool

/-- What `accept` found. -/
inductive Accepted where
  | client
  | wouldBlock
  | failed
  deriving DecidableEq, Repr

/-- The steps of a server and of everybody around it. -/
inductive ServerLabel (β ε : Type) where
  /-- The listener was configured, or could not be. -/
  | configured (done : Bool)
  /-- The shutdown flag is read. -/
  | check (shutdown : Bool)
  | accept (accepted : Accepted)
  /-- A step of the session. -/
  | session (label : SessionLabel β ε)
  /-- A `qRRCmd` packet, answered with the backend locked. -/
  | qrrcmd (args : Text)
  /-- `run_blocking` returns. -/
  | disconnect
  /-- A worker, while `into_backend` is under way. -/
  | worker (number : Nat) (env : ε)
  /-- `into_backend` goes on. -/
  | leave
  /-- The deadline of `into_backend` passes. -/
  | giveUp
  /-- A worker of an earlier session. -/
  | past (index number : Nat) (env : ε)

/-- The commands see a debug target through its position, its lifetime and its
jumps. -/
abbrev commandTarget (target : DebugTarget β ε) : CommandTarget β where
  position := target.position
  lifetime := target.lifetime
  goto backend pos := (target.goto backend pos).map (Except.map fun _ => ()) id

namespace ServerStage

/-- The backend that the server owns. -/
def memory : ServerStage β → Option β
  | .binding backend | .looping backend | .accepting backend | .closed backend
  | .waiting backend | .stopped backend => some backend
  | .serving session => some session.runner.shared.backend
  | .leaving runner => some runner.shared.backend
  | .failed _ => none

/-- The same stage with another backend. -/
def setMemory (stage : ServerStage β) (backend : β) : ServerStage β :=
  match stage with
  | .binding _ => .binding backend
  | .looping _ => .looping backend
  | .accepting _ => .accepting backend
  | .serving session =>
      let shared := { session.runner.shared with backend := backend }
      .serving { session with runner := { session.runner with shared := shared } }
  | .leaving runner => .leaving { runner with shared := { runner.shared with backend := backend } }
  | .closed _ => .closed backend
  | .waiting _ => .waiting backend
  | .stopped _ => .stopped backend
  | .failed error => .failed error

end ServerStage

namespace Server

/-- A server that was just started. -/
def new (persist : Bool) (backend : β) : Server β :=
  ⟨persist, .binding backend, .new, [], false⟩

/-- `into_backend` has taken a step, which may have been its last. -/
def left (server : Server β) (runner : TargetRunner β) : Server β :=
  match runner.loop with
  | .finished true =>
      { server with stage := .closed runner.shared.backend, past := server.past ++ [runner] }
  | .finished false =>
      { server with stage := .failed .backendRecovery, past := server.past ++ [runner] }
  | _ => { server with stage := .leaving runner }

/-- A worker of an earlier session takes a step, on the backend as it is now. -/
def pastStep (target : DebugTarget β ε) (server : Server β) (index number : Nat) (env : ε) :
    Option (Server β) :=
  match server.past[index]? with
  | none => none
  | some runner =>
      match server.stage.memory with
      | none =>
          (Runner.step (workload target) runner (.worker number (.environment env))).map
            fun runner => { server with past := server.past.set index runner }
      | some backend =>
          (Runner.step (workload target)
            { runner with shared := { runner.shared with backend := backend } }
            (.worker number (.environment env))).map fun runner =>
              { server with
                stage := server.stage.setMemory runner.shared.backend
                past := server.past.set index runner }

/-- One step of the server, of its session or of a worker. -/
def step (target : DebugTarget β ε) : LStep (Server β) (ServerLabel β ε) :=
  fun server label =>
    match server.stage, label with
    | _, .past index number env => server.pastStep target index number env
    | .binding backend, .configured done =>
        some { server with stage := if done then .looping backend else .failed .listener }
    | .looping backend, .check shutdown =>
        some { server with stage := if shutdown then .stopped backend else .accepting backend }
    | .accepting backend, .accept .client =>
        some { server with stage := .serving (.new backend) }
    | .accepting backend, .accept .wouldBlock => some { server with stage := .waiting backend }
    | .accepting _, .accept .failed => some { server with stage := .failed .connection }
    | .waiting backend, .check shutdown =>
        some { server with stage := if shutdown then .stopped backend else .looping backend }
    | .serving session, .session label =>
        (session.step target label).map fun session => { server with stage := .serving session }
    | .serving session, .qrrcmd args =>
        match session.stage, session.runner.loop with
        | .idle, .holding .tryLock =>
            let checkpoints := (@handleQrrcmd β (commandTarget target)
              session.runner.shared.backend server.checkpoints args).2
            some { server with checkpoints := checkpoints }
        | _, _ => none
    | .serving session, .disconnect =>
        match session.stage with
        | .idle | .finished =>
            (session.runner.loopStep (workload target) .intoBackend).map server.left
        | _ => none
    | .leaving runner, .worker number env =>
        (Runner.step (workload target) runner (.worker number (.environment env))).map
          fun runner => { server with stage := .leaving runner }
    | .leaving runner, .leave => (runner.loopStep (workload target) .proceed).map server.left
    | .leaving runner, .giveUp =>
        (runner.loopStep (workload target) .giveUp).map { server with gaveUp := true }.left
    | .closed backend, .check shutdown =>
        some { server with
          stage := if !server.persist || shutdown then .stopped backend else .looping backend }
    | _, _ => none

end Server

/-! ## What a worker that has given the backend back can do -/

/-- No worker of the runner has the backend. -/
def Runner.Released (runner : TargetRunner β) : Prop :=
  ∀ worker ∈ runner.workers, worker.stage.holdsBackend = false

section Released

variable {target : DebugTarget β ε} {runner next : TargetRunner β} {number : Nat}
  {choice : Choice β ε}

/-- Such a worker does not come back to it. -/
theorem Runner.Released.step (released : runner.Released)
    (stepEq : Runner.step (workload target) runner (.worker number choice) = some next) :
    next.Released ∧ next.shared = runner.shared := by
  simp only [Runner.step] at stepEq
  split at stepEq
  · contradiction
  · rename_i worker found
    have away := released worker (List.mem_of_getElem? found)
    have turn : Runner.WorkerTurn (workload target) runner next number worker choice :=
      Runner.workerTurn_workerStep stepEq
    have moved {stage : WorkerStage Job MultiThreadStopReason} (gone : stage.holdsBackend = false) :
        ∀ other ∈ runner.workers.set number { worker with stage := stage },
          other.stage.holdsBackend = false := by
      intro other present
      rcases List.mem_or_eq_of_mem_set present with before | now
      · exact released other before
      · rw [now]
        exact gone
    cases turn with
    | locked job at_ => simp [at_, WorkerStage.holdsBackend] at away
    | goesOn which closure following shared notes at_ =>
        cases which <;>
          simp [at_, Runner.insideClosure, WorkerStage.holdsBackend, WorkerStage.holdsGuard] at away
    | ended which closure ending shared notes at_ =>
        cases which <;>
          simp [at_, Runner.insideClosure, WorkerStage.holdsBackend, WorkerStage.holdsGuard] at away
    | swapped result at_ =>
        simp [at_, WorkerStage.holdsBackend, WorkerStage.holdsGuard] at away
    | unlocked outcome at_ =>
        simp [at_, WorkerStage.holdsBackend, WorkerStage.holdsGuard] at away
    | dropped outcome at_ => simp [at_, WorkerStage.holdsBackend] at away
    | cleared outcome at_ next_eq =>
        subst next_eq
        exact ⟨moved rfl, rfl⟩
    | sent outcome at_ next_eq =>
        subst next_eq
        exact ⟨moved rfl, rfl⟩

/-- A runner whose only reference is the event loop's. -/
theorem Runner.Exclusive.released (exclusive : runner.Exclusive) (single : runner.strongCount = 1) :
    runner.Released := by
  have counted := exclusive.counted
  have none_ :
      runner.workers.countP (fun worker => worker.stage.holdsBackend) = 0 := by omega
  intro worker present
  simpa using List.countP_eq_zero.mp none_ worker present

end Released

/-! ## The end of a session -/

/-- `into_backend` is under way.  Unless it gave up, it unwraps the backend only
after it has seen that nothing is in flight. -/
structure Departing (gaveUp : Bool) (runner : TargetRunner β) : Prop where
  exclusive : runner.Exclusive
  leaving : runner.loop.leaving = true
  open_ : ∀ recovered, runner.loop ≠ .finished recovered
  patient : gaveUp = false → runner.loop = .unwrapping → runner.replayRunning = false

/-- `into_backend` has returned. -/
structure Departed (gaveUp : Bool) (runner : TargetRunner β) (recovered : Bool) : Prop where
  at_ : runner.loop = .finished recovered
  released : recovered = true → runner.Released
  lost : recovered = false → gaveUp = true

section Departing

variable {target : DebugTarget β ε} {runner next : TargetRunner β} {gaveUp : Bool}

theorem Departing.worker {number : Nat} {choice : Choice β ε} (departing : Departing gaveUp runner)
    (stepEq : Runner.step (workload target) runner (.worker number choice) = some next) :
    Departing gaveUp next := by
  have exclusive := departing.exclusive.step stepEq
  simp only [Runner.step] at stepEq
  split at stepEq
  · contradiction
  · rename_i worker found
    obtain ⟨stage, moved⟩ :=
      Runner.moved_workerStep (departing.exclusive.workerGuard number worker found).mp stepEq
    refine ⟨exclusive, ?_, ?_, ?_⟩
    · rw [moved.loop]
      exact departing.leaving
    · rw [moved.loop]
      exact departing.open_
    · intro patient at_
      rw [moved.loop] at at_
      rw [moved.running, departing.patient patient at_]
      rfl

/-- The backend is unwrapped: it is there exactly if nobody else refers to it. -/
theorem Departing.unwrap (departing : Departing gaveUp runner) (at_ : runner.loop = .unwrapping)
    (stepEq : runner.loopStep (workload target) .proceed = some next) :
    ∃ recovered, Departed gaveUp next recovered := by
  have exclusive := departing.exclusive.loopStep stepEq
  simp only [Runner.loopStep, at_, Option.some.injEq] at stepEq
  subst next
  refine ⟨runner.strongCount == 1, rfl, ?_, ?_⟩
  · intro single
    exact exclusive.released (beq_iff_eq.mp single)
  · intro shared
    cases gaveUp with
    | true => rfl
    | false =>
        have single := departing.exclusive.strongCount (departing.patient rfl at_)
        simp [single] at shared

/-- `into_backend` goes on or returns. -/
theorem Departing.proceed (departing : Departing gaveUp runner)
    (stepEq : runner.loopStep (workload target) .proceed = some next) :
    Departing gaveUp next ∨ ∃ recovered, Departed gaveUp next recovered := by
  have exclusive := departing.exclusive.loopStep stepEq
  have leaving := departing.leaving
  cases at_ : runner.loop with
  | requesting requester =>
      cases requester with
      | intoBackend =>
          simp only [Runner.loopStep, at_, Option.some.injEq] at stepEq
          subst next
          refine .inl ⟨exclusive, ?_, ?_, ?_⟩
          all_goals
            cases flying : runner.replayRunning <;>
              simp [Runner.requestInterrupt, flying, Requester.resumeAt, LoopStage.leaving]
      | eventLoop | onInterrupt => simp [at_, LoopStage.leaving] at leaving
  | storing requester =>
      cases requester with
      | intoBackend =>
          simp only [Runner.loopStep, at_, Option.some.injEq] at stepEq
          subst next
          exact .inl ⟨exclusive, rfl, by simp [workload], by simp [workload]⟩
      | eventLoop | onInterrupt => simp [at_, LoopStage.leaving] at leaving
  | firing handle requester =>
      cases requester with
      | intoBackend =>
          simp only [Runner.loopStep, at_, workload, Option.some.injEq] at stepEq
          subst next
          exact .inl ⟨exclusive, rfl, by simp [Requester.resumeAt], by simp [Requester.resumeAt]⟩
      | eventLoop | onInterrupt => simp [at_, LoopStage.leaving] at leaving
  | polling =>
      simp only [Runner.loopStep, at_, Option.some.injEq] at stepEq
      subst next
      cases flying : runner.replayRunning with
      | true =>
          rw [flying] at exclusive
          exact .inl ⟨exclusive, rfl, by simp, by simp⟩
      | false =>
          rw [flying] at exclusive
          exact .inl ⟨exclusive, rfl, by simp, fun _ _ => flying⟩
  | unwrapping => exact .inr (departing.unwrap at_ stepEq)
  | finished recovered => exact absurd at_ (departing.open_ recovered)
  | ready | resetting | lockingResume | resuming | releasing | swappingReceiver | cloning
  | spawning | checking | waiting | locking | holding =>
      simp [at_, LoopStage.leaving] at leaving

theorem Departing.giveUp (departing : Departing gaveUp runner)
    (stepEq : runner.loopStep (workload target) .giveUp = some next) : Departing true next := by
  have exclusive := departing.exclusive.loopStep stepEq
  unfold Runner.loopStep at stepEq
  split at stepEq
  all_goals try contradiction
  cases stepEq
  exact ⟨exclusive, rfl, by simp, by simp⟩

/-- A client may leave whenever no call is in progress. -/
theorem departing_intoBackend (exclusive : runner.Exclusive)
    (stepEq : runner.loopStep (workload target) .intoBackend = some next) :
    Departing gaveUp next := by
  have exclusive' := exclusive.loopStep stepEq
  unfold Runner.loopStep at stepEq
  split at stepEq
  all_goals try contradiction
  cases stepEq
  cases flying : runner.replayRunning with
  | true =>
      simp only [flying, workload, Option.isSome_some, and_self, if_true] at exclusive' ⊢
      exact ⟨exclusive', rfl, by simp, by simp⟩
  | false =>
      simp only [flying, Bool.false_eq_true, false_and, if_false] at exclusive' ⊢
      exact ⟨exclusive', rfl, by simp, fun _ _ => flying⟩

end Departing

/-! ## Runs of the server -/

/-- What holds of a server at any time. -/
structure HandsOver (target : DebugTarget β ε) (server : Server β) : Prop where
  /-- The session in progress is a session like any other. -/
  session : ∀ session, server.stage = .serving session → ∃ backend labels,
    Run (Session.step target) AnyStep (.new backend) labels session
  /-- No worker of an earlier session has the backend, unless it was never given back. -/
  released : server.stage ≠ .failed .backendRecovery → ∀ runner ∈ server.past, runner.Released
  /-- Nothing that such a worker does can be noticed. -/
  undisturbed : ∀ index number env next,
    server.step target (.past index number env) = some next → next.stage = server.stage
  /-- The backend is lost only to a worker that outlives the deadline. -/
  lost : server.stage = .failed .backendRecovery → server.gaveUp = true

/-- The invariant behind it. -/
structure Keeping (target : DebugTarget β ε) (server : Server β) : Prop where
  session : ∀ session, server.stage = .serving session → ∃ backend labels,
    Run (Session.step target) AnyStep (.new backend) labels session
  departing : ∀ runner, server.stage = .leaving runner → Departing server.gaveUp runner
  released : server.stage ≠ .failed .backendRecovery → ∀ runner ∈ server.past, runner.Released
  lost : server.stage = .failed .backendRecovery → server.gaveUp = true

section Keeping

variable {target : DebugTarget β ε} {server next : Server β}

theorem setMemory_memory {stage : ServerStage β} {backend : β}
    (owned : stage.memory = some backend) : stage.setMemory backend = stage := by
  cases stage with
  | failed error => simp [ServerStage.memory] at owned
  | binding | looping | accepting | serving | leaving | closed | waiting | stopped =>
      simp only [ServerStage.memory, Option.some.injEq] at owned
      subst owned
      rfl

/-- A worker of an earlier session only winds down. -/
theorem Keeping.past {index number : Nat} {env : ε} (keeping : Keeping target server)
    (stepEq : server.pastStep target index number env = some next) :
    next.stage = server.stage ∧ next.gaveUp = server.gaveUp ∧
      (server.stage ≠ .failed .backendRecovery → ∀ runner ∈ next.past, runner.Released) := by
  unfold Server.pastStep at stepEq
  split at stepEq
  · contradiction
  · rename_i runner found
    have set_ {after : TargetRunner β} (released : server.stage ≠ .failed .backendRecovery →
        after.Released) (failed : server.stage ≠ .failed .backendRecovery) :
        ∀ other ∈ server.past.set index after, other.Released := by
      intro other present
      rcases List.mem_or_eq_of_mem_set present with before | rfl
      · exact keeping.released failed other before
      · exact released failed
    have held (failed : server.stage ≠ .failed .backendRecovery) : runner.Released :=
      keeping.released failed runner (List.mem_of_getElem? found)
    split at stepEq
    · obtain ⟨after, stepped, rfl⟩ := Option.map_eq_some_iff.mp stepEq
      exact ⟨rfl, rfl, set_ fun failed => ((held failed).step stepped).1⟩
    · rename_i backend owned
      obtain ⟨after, stepped, rfl⟩ := Option.map_eq_some_iff.mp stepEq
      have alive : server.stage ≠ .failed .backendRecovery := by
        rintro failed
        simp [failed, ServerStage.memory] at owned
      have away : Runner.Released
          { runner with shared := { runner.shared with backend := backend } } := held alive
      obtain ⟨released, shared⟩ := away.step stepped
      refine ⟨?_, rfl, set_ fun _ => released⟩
      dsimp only
      rw [shared]
      exact setMemory_memory owned

/-- A stage in which no session is in progress. -/
theorem Keeping.between (keeping : Keeping target server)
    (alive : server.stage ≠ .failed .backendRecovery) {stage : ServerStage β}
    (noSession : ∀ session, stage ≠ .serving session) (noEnd : ∀ runner, stage ≠ .leaving runner)
    (unlost : stage ≠ .failed .backendRecovery) :
    Keeping target { server with stage := stage } where
  session session at_ := absurd at_ (noSession session)
  departing runner at_ := absurd at_ (noEnd runner)
  released _ := keeping.released alive
  lost failed := absurd failed unlost

theorem left_of_open {runner : TargetRunner β}
    (open_ : ∀ recovered, runner.loop ≠ .finished recovered) :
    server.left runner = { server with stage := .leaving runner } := by
  cases at_ : runner.loop with
  | finished recovered => exact absurd at_ (open_ recovered)
  | _ => simp only [Server.left, at_]

/-- The end of a session, or another step towards it. -/
theorem keeping_left (server : Server β) {runner : TargetRunner β}
    (released : ∀ other ∈ server.past, other.Released)
    (ending : Departing server.gaveUp runner ∨
      ∃ recovered, Departed server.gaveUp runner recovered) :
    Keeping target (server.left runner) := by
  rcases ending with departing | ⟨recovered, departed⟩
  · rw [left_of_open departing.open_]
    refine ⟨by simp, ?_, fun _ => released, by simp⟩
    rintro other ⟨⟩
    exact departing
  · cases recovered with
    | true =>
        have same : server.left runner = { server with
            stage := .closed runner.shared.backend, past := server.past ++ [runner] } := by
          simp only [Server.left, departed.at_]
        rw [same]
        refine ⟨by simp, by simp, ?_, by simp⟩
        intro _ other present
        rcases List.mem_append.mp present with before | last
        · exact released other before
        · rw [List.mem_singleton.mp last]
          exact departed.released rfl
    | false =>
        have same : server.left runner = { server with
            stage := .failed .backendRecovery, past := server.past ++ [runner] } := by
          simp only [Server.left, departed.at_]
        rw [same]
        exact ⟨by simp, by simp, fun alive => absurd rfl alive, fun _ => departed.lost rfl⟩

/-- A step of a worker of an earlier session keeps the invariant. -/
theorem Keeping.pastStep {index number : Nat} {env : ε} (keeping : Keeping target server)
    (stepEq : server.pastStep target index number env = some next) : Keeping target next := by
  obtain ⟨stage, gaveUp, released⟩ := keeping.past stepEq
  refine ⟨?_, ?_, ?_, ?_⟩
  · rw [stage]
    exact keeping.session
  · rw [stage, gaveUp]
    exact keeping.departing
  · rw [stage]
    exact released
  · rw [stage, gaveUp]
    exact keeping.lost

/-- So does a step of the session in progress. -/
theorem Keeping.sessionStep {session after : Session β} {label : SessionLabel β ε}
    (keeping : Keeping target server) (at_ : server.stage = .serving session)
    (stepped : session.step target label = some after) :
    Keeping target { server with stage := .serving after } := by
  obtain ⟨backend, labels, run⟩ := keeping.session session at_
  refine ⟨?_, by simp, fun _ => keeping.released (by simp [at_]), by simp⟩
  rintro other ⟨⟩
  exact ⟨backend, labels ++ [label], .snoc run trivial stepped⟩

/-- So does the client that leaves. -/
theorem Keeping.disconnect {session : Session β} {runner : TargetRunner β}
    (keeping : Keeping target server) (at_ : server.stage = .serving session)
    (stepped : session.runner.loopStep (workload target) .intoBackend = some runner) :
    Keeping target (server.left runner) := by
  obtain ⟨backend, labels, run⟩ := keeping.session session at_
  have exclusive : session.runner.Exclusive := by
    obtain ⟨driven, driving⟩ := Session.drives_of_run run
    exact (Runner.serving_of_run driving).exclusive
  exact keeping_left server (keeping.released (by simp [at_]))
    (.inl (departing_intoBackend exclusive stepped))

/-- Every step keeps the invariant. -/
theorem Keeping.step {label : ServerLabel β ε} (keeping : Keeping target server)
    (stepEq : server.step target label = some next) : Keeping target next := by
  unfold Server.step at stepEq
  split at stepEq
  · exact keeping.pastStep stepEq
  all_goals rename_i at_
  -- The listener, until it accepts a client.
  · rename_i backend done
    cases stepEq
    cases done <;> exact keeping.between (by simp [at_]) (by simp) (by simp) (by simp)
  · rename_i backend shutdown
    cases stepEq
    cases shutdown <;> exact keeping.between (by simp [at_]) (by simp) (by simp) (by simp)
  · rename_i backend
    cases stepEq
    refine ⟨?_, by simp, fun _ => keeping.released (by simp [at_]), by simp⟩
    rintro session ⟨⟩
    exact ⟨backend, [], .nil⟩
  · cases stepEq
    exact keeping.between (by simp [at_]) (by simp) (by simp) (by simp)
  · cases stepEq
    exact keeping.between (by simp [at_]) (by simp) (by simp) (by simp)
  · rename_i backend shutdown
    cases stepEq
    cases shutdown <;> exact keeping.between (by simp [at_]) (by simp) (by simp) (by simp)
  -- The session in progress.
  · obtain ⟨after, stepped, rfl⟩ := Option.map_eq_some_iff.mp stepEq
    exact keeping.sessionStep at_ stepped
  · split at stepEq
    · cases stepEq
      exact ⟨keeping.session, keeping.departing, keeping.released, keeping.lost⟩
    · contradiction
  · split at stepEq
    · obtain ⟨runner, stepped, rfl⟩ := Option.map_eq_some_iff.mp stepEq
      exact keeping.disconnect at_ stepped
    · obtain ⟨runner, stepped, rfl⟩ := Option.map_eq_some_iff.mp stepEq
      exact keeping.disconnect at_ stepped
    · contradiction
  -- The end of a session.
  · rename_i runner number env
    obtain ⟨after, stepped, rfl⟩ := Option.map_eq_some_iff.mp stepEq
    refine ⟨by simp, ?_, fun _ => keeping.released (by simp [at_]), by simp⟩
    rintro other ⟨⟩
    exact (keeping.departing runner at_).worker stepped
  · rename_i runner
    obtain ⟨after, stepped, rfl⟩ := Option.map_eq_some_iff.mp stepEq
    exact keeping_left server (keeping.released (by simp [at_]))
      ((keeping.departing runner at_).proceed stepped)
  · rename_i runner
    obtain ⟨after, stepped, rfl⟩ := Option.map_eq_some_iff.mp stepEq
    have patient : ∀ other ∈ server.past, other.Released := keeping.released (by simp [at_])
    exact keeping_left { server with gaveUp := true } patient
      (.inl ((keeping.departing runner at_).giveUp stepped))
  · cases stepEq
    refine keeping.between (by simp [at_]) ?_ ?_ ?_
    all_goals split <;> simp
  · contradiction

end Keeping

/-- In every run of the server, whatever its clients do and whenever they leave,
no two sessions share the backend. -/
theorem Server.handsOver_of_run {target : DebugTarget β ε} {persist : Bool} {backend : β}
    {labels : List (ServerLabel β ε)} {server : Server β}
    (run : Run (Server.step target) AnyStep (.new persist backend) labels server) :
    HandsOver target server := by
  have initial : Keeping target (.new persist backend) :=
    ⟨by simp [Server.new], by simp [Server.new], by simp [Server.new], by simp [Server.new]⟩
  have keeping := run.invariant initial fun keeping _ stepEq => Keeping.step keeping stepEq
  refine ⟨keeping.session, keeping.released, ?_, keeping.lost⟩
  intro index number env next stepEq
  unfold Server.step at stepEq
  exact (keeping.past stepEq).1

/-- A client leaves in the middle of a resume, and the next one comes before the
worker has ended. -/
def abruptLeave : List (ServerLabel TtdPosition Unit) :=
  [.configured true, .check false, .accept .client] ++
    (Session.interruptedResume.take 10).map .session ++
    [.disconnect, .leave, .leave, .leave] ++ List.replicate 9 (.worker 0 ()) ++
    [.leave, .leave, .check false, .check false, .accept .client, .past 0 0 ()]

theorem abruptLeave_handsOver :
    ∃ server, exec (Server.step Session.standing) (.new true ⟨1, 0⟩) abruptLeave = some server ∧
      server.past.length = 1 ∧ server.gaveUp = false ∧ HandsOver Session.standing server := by
  have ends : (exec (Server.step Session.standing) (.new true ⟨1, 0⟩) abruptLeave).map
      (fun server => (server.past.length, server.gaveUp)) = some (1, false) := rfl
  obtain ⟨server, executed, final⟩ := Option.map_eq_some_iff.mp ends
  rw [Prod.mk.injEq] at final
  exact ⟨server, executed, final.1, final.2, Server.handsOver_of_run (run_of_exec executed)⟩

/-! ## Checkpoints -/

/-- The step takes a checkpoint. -/
def ServerLabel.takesCheckpoint : ServerLabel β ε → Bool
  | .qrrcmd args => (TraceOp.qrrcmd args).takesCheckpoint
  | _ => false

/-- The step deletes the checkpoint, if it is there. -/
def ServerLabel.deletes (id : UInt64) : ServerLabel β ε → Bool
  | .qrrcmd args => (TraceOp.qrrcmd args).deletes id
  | _ => false

/-- The checkpoint is in the table, and that many were taken after it. -/
structure Remembers (id : UInt64) (pos : TtdPosition) (taken : Nat) (table : CheckpointTable) :
    Prop where
  saved : table.position id = some pos
  counter : table.nextId = id + 1 + UInt64.ofNat taken

section Checkpoints

variable {target : DebugTarget β ε} {server next : Server β} {id : UInt64} {pos : TtdPosition}
  {taken : Nat}

theorem checkpoints_left (server : Server β) (runner : TargetRunner β) :
    (server.left runner).checkpoints = server.checkpoints := by
  unfold Server.left
  split <;> rfl

/-- Only `qRRCmd` touches the table. -/
theorem checkpoints_step {label : ServerLabel β ε}
    (stepEq : server.step target label = some next) :
    (label.takesCheckpoint = false ∧ next.checkpoints = server.checkpoints) ∨
      ∃ args session, label = .qrrcmd args ∧
      server.stage = .serving session ∧
      next.checkpoints = (@handleQrrcmd β (commandTarget target)
        session.runner.shared.backend server.checkpoints args).2 := by
  unfold Server.step at stepEq
  split at stepEq
  all_goals rename_i at_
  · refine .inl ⟨rfl, ?_⟩
    unfold Server.pastStep at stepEq
    split at stepEq
    · contradiction
    · split at stepEq
      all_goals
        obtain ⟨after, stepped, rfl⟩ := Option.map_eq_some_iff.mp stepEq
        rfl
  · cases stepEq
    exact .inl ⟨rfl, rfl⟩
  · cases stepEq
    exact .inl ⟨rfl, rfl⟩
  · cases stepEq
    exact .inl ⟨rfl, rfl⟩
  · cases stepEq
    exact .inl ⟨rfl, rfl⟩
  · cases stepEq
    exact .inl ⟨rfl, rfl⟩
  · cases stepEq
    exact .inl ⟨rfl, rfl⟩
  · obtain ⟨after, stepped, rfl⟩ := Option.map_eq_some_iff.mp stepEq
    exact .inl ⟨rfl, rfl⟩
  · rename_i session args
    split at stepEq
    · cases stepEq
      exact .inr ⟨args, session, rfl, at_, rfl⟩
    · contradiction
  · split at stepEq
    · obtain ⟨runner, stepped, rfl⟩ := Option.map_eq_some_iff.mp stepEq
      exact .inl ⟨rfl, checkpoints_left server runner⟩
    · obtain ⟨runner, stepped, rfl⟩ := Option.map_eq_some_iff.mp stepEq
      exact .inl ⟨rfl, checkpoints_left server runner⟩
    · contradiction
  · obtain ⟨after, stepped, rfl⟩ := Option.map_eq_some_iff.mp stepEq
    exact .inl ⟨rfl, rfl⟩
  · obtain ⟨runner, stepped, rfl⟩ := Option.map_eq_some_iff.mp stepEq
    exact .inl ⟨rfl, checkpoints_left server runner⟩
  · obtain ⟨runner, stepped, rfl⟩ := Option.map_eq_some_iff.mp stepEq
    exact .inl ⟨rfl, checkpoints_left _ runner⟩
  · cases stepEq
    exact .inl ⟨rfl, rfl⟩
  · contradiction

theorem Remembers.nextId_ne {table : CheckpointTable} (remembers : Remembers id pos taken table)
    (short : taken + 1 < 2 ^ 64) : table.nextId ≠ id := by
  intro round
  have counter := congrArg UInt64.toNat (remembers.counter.symm.trans round)
  have bound := id.toNat_lt
  simp only [UInt64.toNat_add, UInt64.toNat_ofNat', UInt64.toNat_one] at counter
  omega

/-- A command on the table keeps a checkpoint that it does not delete. -/
theorem Remembers.qrrcmd {table : CheckpointTable} (remembers : Remembers id pos taken table)
    (backend : β) {args : Text} (kept : (TraceOp.qrrcmd args).deletes id = false)
    (short : taken + (if (TraceOp.qrrcmd args).takesCheckpoint then 1 else 0) < 2 ^ 64 - 1) :
    Remembers id pos (taken + if (TraceOp.qrrcmd args).takesCheckpoint then 1 else 0)
      (@handleQrrcmd β (commandTarget target) backend table args).2 := by
  cases takes : (TraceOp.qrrcmd args).takesCheckpoint with
  | false =>
      obtain ⟨counter, saved⟩ :=
        @handleQrrcmd_keeps β (commandTarget target) backend table _ takes _ kept
      exact ⟨saved.trans remembers.saved, counter.trans remembers.counter⟩
  | true =>
      rw [takes, if_pos rfl] at short
      have different : id ≠ table.nextId := (remembers.nextId_ne (by omega)).symm
      have inserts := @handleQrrcmd_checkpoint β (commandTarget target) backend table args
        (beq_iff_eq.mp takes)
      refine ⟨?_, ?_⟩
      · rw [inserts, Prod.map_snd, id_eq, CheckpointTable.position_insert, if_neg different]
        exact remembers.saved
      · rw [inserts, Prod.map_snd, id_eq, CheckpointTable.nextId_insert, remembers.counter,
          if_pos rfl, UInt64.ofNat_add, ← UInt64.add_assoc]
        rfl

theorem Remembers.of_run {start finish : Server β} {labels : List (ServerLabel β ε)}
    (remembers : Remembers id pos 0 start.checkpoints)
    (run : Run (Server.step target) (fun _ label => label.deletes id = false) start labels finish)
    (short : labels.countP ServerLabel.takesCheckpoint < 2 ^ 64 - 1) :
    Remembers id pos (labels.countP ServerLabel.takesCheckpoint) finish.checkpoints := by
  induction run with
  | nil => exact remembers
  | @snoc labels middle finish label _ kept stepEq ih =>
      rw [List.countP_append, List.countP_singleton] at short ⊢
      have before := ih (by omega)
      rcases checkpoints_step stepEq with
        ⟨idle, same⟩ | ⟨args, session, rfl, at_, table⟩
      · rw [idle, same]
        exact before
      · rw [table]
        exact before.qrrcmd session.runner.shared.backend kept short

/-- A checkpoint that a client took is there for every later client, until one
deletes it: a restart names it by the same id and goes to the same position. -/
theorem Server.checkpoint_outlivesSession {session : Session β} {args : Text}
    {taken final : Server β} {labels : List (ServerLabel β ε)}
    (serving : server.stage = .serving session)
    (takes : (ServerLabel.qrrcmd args : ServerLabel β ε).takesCheckpoint = true)
    (stepEq : server.step target (.qrrcmd args) = some taken)
    (run : Run (Server.step target)
      (fun _ label => label.deletes server.checkpoints.nextId = false) taken labels final)
    (short : labels.countP ServerLabel.takesCheckpoint < 2 ^ 64 - 1) :
    final.checkpoints.position server.checkpoints.nextId =
        some (target.position session.runner.shared.backend) ∧
      ∀ lifetime, restartTarget lifetime final.checkpoints
          (checkpointArgument server.checkpoints.nextId) =
        .ok (target.position session.runner.shared.backend) := by
  have remembers : Remembers server.checkpoints.nextId
      (target.position session.runner.shared.backend) 0 taken.checkpoints := by
    rcases checkpoints_step stepEq with ⟨idle, -⟩ | ⟨same, other, label_eq, at_, table⟩
    · rw [idle] at takes
      contradiction
    · cases label_eq
      obtain rfl : other = session := ServerStage.serving.inj (at_.symm.trans serving)
      have inserts := @handleQrrcmd_checkpoint β (commandTarget target)
        other.runner.shared.backend server.checkpoints args (beq_iff_eq.mp takes)
      rw [table, inserts]
      refine ⟨?_, ?_⟩
      · rw [Prod.map_snd, id_eq, CheckpointTable.position_insert, if_pos rfl]
        rfl
      · rw [Prod.map_snd, id_eq, CheckpointTable.nextId_insert]
        exact (UInt64.add_zero _).symm
  have saved := (remembers.of_run run short).saved
  exact ⟨saved, fun lifetime => restartTarget_checkpointArgument lifetime final.checkpoints saved⟩

end Checkpoints

/-- A client connects and asks for a checkpoint. -/
def firstClient : List (ServerLabel TtdPosition Unit) :=
  [.configured true, .check false, .accept .client, .session (.call .tryLock),
    .session (.call .proceed)]

/-- It leaves, and another one connects. -/
def secondClient : List (ServerLabel TtdPosition Unit) :=
  [.session (.call .proceed), .disconnect, .leave, .check false, .check false, .accept .client]

theorem secondClient_restarts :
    ∃ server taken final, exec (Server.step Session.standing) (.new true ⟨1, 0⟩) firstClient =
        some server ∧
      server.step Session.standing (.qrrcmd checkpointArgs) = some taken ∧
      exec (Server.step Session.standing) taken secondClient = some final ∧
      restartTarget (⟨0, 0⟩, ⟨9, 0⟩) final.checkpoints (checkpointArgument 1) =
        .ok ⟨1, 0⟩ := by
  have run {id : UInt64} {start finish : Server TtdPosition}
      (executed : exec (restrict (Server.step Session.standing)
        (fun _ label => label.deletes id = false)) start secondClient = some finish) :=
    run_of_exec_restrict executed
  let server := (exec (Server.step Session.standing) (.new true ⟨1, 0⟩) firstClient).getD
    (.new true ⟨1, 0⟩)
  refine ⟨server, _, _, rfl, rfl, rfl, ?_⟩
  exact (@Server.checkpoint_outlivesSession _ _ Session.standing server _ checkpointArgs _ _
    secondClient rfl (by decide) rfl (run rfl) (by decide)).2 _

end TtdGdbserver.Gdb
