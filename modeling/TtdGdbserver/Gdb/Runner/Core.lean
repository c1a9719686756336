import Mathlib.Tactic.Simps.Basic
import TtdGdbserver.Transition.Core

/-!
# The target runner

`TargetRunner` drives a backend from the protocol event loop and runs each
resume on a worker thread.  The model is a transition system of the event loop
and of every worker ever started, in which each atomic operation, each lock and
unlock and each channel operation is one step.

The closures given to `start` and the backend's interrupt handle are machines
of their own, over memory that both threads may touch.  The history is a ghost:
no step reads it.
-/

namespace TtdGdbserver.Gdb

open TtdGdbserver.Transition

/-! ## Outcomes -/

/-- What a panic carries. -/
inductive Payload where
  | string (text : String)
  | str (text : String)
  | other
  deriving DecidableEq, Repr

/-- A worker job panicked. -/
structure WorkerPanic where
  message : String
  deriving DecidableEq, Repr

/-- The printable message of a panic. -/
def WorkerPanic.fromPayload : Payload → WorkerPanic
  | .string text => ⟨text⟩
  | .str text => ⟨text⟩
  | .other => ⟨"non-string panic payload"⟩

/-- What a worker publishes. -/
inductive Outcome (R : Type) where
  | ok (result : R)
  | panic (panicked : WorkerPanic)
  deriving DecidableEq, Repr

/-- How a closure ends: it returns or it panics. -/
inductive Ending (R : Type) where
  | returned (result : R)
  | panicked (payload : Payload)
  deriving DecidableEq, Repr

/-! ## Closures -/

/-- What one step of a closure leads to. -/
inductive Progress (J R : Type) where
  | running (closure : J)
  | ended (ending : Ending R)
  deriving DecidableEq, Repr

/-- The code that the runner is given: closures `J` over shared memory `S` that
end with a result `R`, and an interrupt handle `H`.  A step of a closure may
depend on a choice of the environment, and may leave notes `N` in the history. -/
structure Workload (S J H R N C : Type) where
  /-- One step of a closure, `none` when it has to wait. -/
  run : C → J → S → Option (Progress J R × S × List N)
  /-- The backend's interrupt handle, if it has one. -/
  handle : Option H
  /-- One step of the handle, which ends with `none`. -/
  fire : H → S → Option (Option H × S × List N)
  /-- `DebugTarget::begin_resume`. -/
  beginResume : S → S
  /-- A query of the event loop that holds the backend. -/
  serve : C → S → S
  /-- An atomic access of the event loop that needs no lock. -/
  access : C → S → S × List N

/-- Closures that end at once, with a handle that does nothing. -/
def immediate : Workload Unit (Ending Nat) Unit Nat Unit Unit where
  run _ ending _ := some (.ended ending, (), [])
  handle := some ()
  fire _ _ := some (none, (), [])
  beginResume := id
  serve _ := id
  access _ shared := (shared, [])

/-! ## Workers -/

/-- Where a worker stands. -/
inductive WorkerStage (J R : Type) where
  /-- About to lock the backend. -/
  | locking (job : J)
  /-- Running the job. -/
  | job (closure : J)
  /-- About to swap the interrupt flag. -/
  | swapping (result : R)
  /-- Running `on_interrupt`. -/
  | onInterrupt (closure : J)
  /-- About to release the backend lock. -/
  | unlocking (outcome : Outcome R)
  /-- About to drop the backend handle. -/
  | dropping (outcome : Outcome R)
  /-- About to clear `replay_running`. -/
  | clearing (outcome : Outcome R)
  /-- About to send the outcome. -/
  | sending (outcome : Outcome R)
  | done
  deriving DecidableEq, Repr

namespace WorkerStage

variable {J R : Type}

/-- The worker holds the backend mutex. -/
def holdsGuard : WorkerStage J R → Bool
  | .job _ | .swapping _ | .onInterrupt _ | .unlocking _ => true
  | _ => false

/-- The worker holds a reference to the backend. -/
def holdsBackend : WorkerStage J R → Bool
  | .locking _ | .dropping _ => true
  | stage => stage.holdsGuard

/-- The worker has not cleared `replay_running`. -/
def inFlight : WorkerStage J R → Bool
  | .clearing _ => true
  | stage => stage.holdsBackend

end WorkerStage

/-- A worker thread. -/
structure Worker (J R : Type) where
  onInterrupt : J
  stage : WorkerStage J R
  deriving DecidableEq, Repr

/-! ## The event loop -/

/-- Who asked for an interrupt. -/
inductive Requester where
  /-- A bare `request_interrupt`. -/
  | eventLoop
  /-- The session's `on_interrupt`. -/
  | onInterrupt
  /-- `into_backend`. -/
  | intoBackend
  deriving DecidableEq, Repr

/-- Why the event loop locks the backend. -/
inductive LockUse where
  /-- `lock` or `query`. -/
  | blocking
  /-- `try_lock`, after its check. -/
  | tryLock
  /-- `map_worker_result` of a panic. -/
  | panicMapping
  deriving DecidableEq, Repr

/-- Where the event loop stands. -/
inductive LoopStage (J H : Type) where
  /-- Between two calls of the runner. -/
  | ready
  /-- In `start`, about to reset the interrupt flag. -/
  | resetting (job onInterrupt : J)
  /-- In `start`, about to lock the backend. -/
  | lockingResume (job onInterrupt : J)
  /-- In `start`, about to call `begin_resume`. -/
  | resuming (job onInterrupt : J)
  /-- In `start`, about to release the backend. -/
  | releasing (job onInterrupt : J)
  /-- In `start`, about to swap in the receiver of a new channel. -/
  | swappingReceiver (job onInterrupt : J)
  /-- In `start`, about to clone the backend handle. -/
  | cloning (job onInterrupt : J)
  /-- In `start`, about to spawn the worker. -/
  | spawning (job onInterrupt : J)
  /-- About to check `replay_running` in `request_interrupt`. -/
  | requesting (requester : Requester)
  /-- About to set the interrupt flag. -/
  | storing (requester : Requester)
  /-- Running the interrupt handle. -/
  | firing (handle : H) (requester : Requester)
  /-- In `on_interrupt`, about to check `replay_running`. -/
  | checking
  /-- In `on_interrupt`, waiting for the outcome. -/
  | waiting
  /-- About to lock the backend. -/
  | locking (use : LockUse)
  /-- Holding the backend. -/
  | holding (use : LockUse)
  /-- In `into_backend`, waiting for the worker to finish. -/
  | polling
  /-- In `into_backend`, about to unwrap the backend handle. -/
  | unwrapping
  /-- `into_backend` returned, with the backend or without it. -/
  | finished (recovered : Bool)
  deriving DecidableEq, Repr

namespace LoopStage

variable {J H : Type}

/-- The event loop is inside an accepted `start`. -/
def starting : LoopStage J H → Bool
  | .resetting .. | .lockingResume .. | .resuming .. | .releasing ..
  | .swappingReceiver .. | .cloning .. | .spawning .. => true
  | _ => false

/-- The event loop holds the backend mutex. -/
def holdsGuard : LoopStage J H → Bool
  | .resuming .. | .releasing .. | .holding _ => true
  | _ => false

/-- The event loop has cloned the backend handle for the worker to come. -/
def holdsClone : LoopStage J H → Bool
  | .spawning .. => true
  | _ => false

/-- The receiver belongs to the channel of the worker to come. -/
def subscribed : LoopStage J H → Bool
  | .cloning .. | .spawning .. => true
  | _ => false

end LoopStage

/-- What follows a `request_interrupt`. -/
def Requester.resumeAt {J H : Type} : Requester → LoopStage J H
  | .eventLoop => .ready
  | .onInterrupt => .checking
  | .intoBackend => .polling

/-- The stage after a step of the handle. -/
def Requester.afterFire {J H : Type} (requester : Requester) : Option H → LoopStage J H
  | none => requester.resumeAt
  | some following => .firing following requester

/-! ## The runner -/

/-- The owner of the backend mutex. -/
inductive Owner where
  | eventLoop
  | worker (number : Nat)
  deriving DecidableEq, Repr

/-- The two closures of a worker. -/
inductive Closure where
  | job
  | onInterrupt
  deriving DecidableEq, Repr

/-- What the history records.  Jobs are numbered in the order in which they
were accepted. -/
inductive Event (R N : Type) where
  /-- `start` accepted the job. -/
  | accepted (number : Nat)
  /-- `start` answered `AlreadyRunning`. -/
  | refused
  /-- `start` reset the interrupt flag for the job. -/
  | reset (number : Nat)
  /-- `request_interrupt` set the interrupt flag. -/
  | stored
  /-- A closure of the job returned or panicked. -/
  | ended (number : Nat) (closure : Closure) (ending : Ending R)
  /-- The job's worker swapped the interrupt flag. -/
  | swapped (number : Nat)
  /-- The event loop received the outcome of the job. -/
  | delivered (number : Nat) (outcome : Outcome R)
  /-- The session's `on_interrupt` returned `None`. -/
  | noStop
  /-- A note of the job. -/
  | jobNote (number : Nat) (note : N)
  /-- A note of the event loop. -/
  | loopNote (note : N)
  deriving DecidableEq, Repr

/-- `TargetRunner`, its event loop and its workers. -/
structure Runner (S J H R N : Type) where
  /-- Memory of the closures, the backend among it. -/
  shared : S
  backendOwner : Option Owner
  /-- Strong count of the backend handle. -/
  strongCount : Nat
  interrupted : Bool
  replayRunning : Bool
  /-- The job whose channel the receiver belongs to. -/
  rx : Option Nat
  /-- The outcomes in that channel, each with the job that sent it. -/
  queue : List (Nat × Outcome R)
  loop : LoopStage J H
  workers : List (Worker J R)
  history : List (Event R N)
  deriving DecidableEq, Repr

/-- What the event loop does next. -/
inductive LoopAction (J C : Type) where
  | start (job onInterrupt : J)
  | takeStopReason
  | waitStopReason
  | requestInterrupt
  | onInterrupt
  | tryLock
  | lock
  | serve (choice : C)
  | access (choice : C)
  | intoBackend
  /-- The deadline of `into_backend` passes. -/
  | giveUp
  /-- The next step of the call in progress. -/
  | proceed
  deriving DecidableEq, Repr

/-- Who takes the next step. -/
inductive RunnerLabel (J C : Type) where
  | worker (number : Nat) (choice : C)
  | loop (action : LoopAction J C)
  deriving DecidableEq, Repr

namespace Runner

variable {S J H R N C : Type}

/-- `TargetRunner::new`. -/
def new (shared : S) : Runner S J H R N where
  shared := shared
  backendOwner := none
  strongCount := 1
  interrupted := false
  replayRunning := false
  rx := none
  queue := []
  loop := .ready
  workers := []
  history := []

/-- `in_flight`. -/
def inFlight (runner : Runner S J H R N) : Bool :=
  runner.replayRunning

/-- Add events to the history. -/
@[simps]
def record (runner : Runner S J H R N) (events : List (Event R N)) : Runner S J H R N :=
  { runner with history := runner.history ++ events }

/-- The event loop moves on. -/
@[simps]
def goTo (runner : Runner S J H R N) (stage : LoopStage J H) : Runner S J H R N :=
  { runner with loop := stage }

/-- A worker moves on. -/
@[simps]
def setStage (runner : Runner S J H R N) (number : Nat) (worker : Worker J R)
    (stage : WorkerStage J R) : Runner S J H R N :=
  { runner with workers := runner.workers.set number { worker with stage := stage } }

/-- The stage after a closure ended. -/
def afterClosure : Closure → Ending R → WorkerStage J R
  | .job, .returned result => .swapping result
  | .onInterrupt, .returned result => .unlocking (.ok result)
  | _, .panicked payload => .unlocking (.panic (.fromPayload payload))

/-- The stage of a worker inside one of its closures. -/
def insideClosure : Closure → J → WorkerStage J R
  | .job, closure => .job closure
  | .onInterrupt, closure => .onInterrupt closure

/-- One step of a closure that the worker is running. -/
def closureStep (load : Workload S J H R N C) (runner : Runner S J H R N) (number : Nat)
    (worker : Worker J R) (which : Closure) (closure : J) (choice : C) :
    Option (Runner S J H R N) :=
  match load.run choice closure runner.shared with
  | none => none
  | some (.running next, shared, notes) =>
      some (({ runner with shared := shared }.setStage number worker
        (insideClosure which next)).record (notes.map (Event.jobNote number)))
  | some (.ended ending, shared, notes) =>
      some (({ runner with shared := shared }.setStage number worker
        (afterClosure which ending)).record
          (notes.map (Event.jobNote number) ++ [Event.ended number which ending]))

/-- One step of a worker. -/
def workerStep (load : Workload S J H R N C) (runner : Runner S J H R N) (number : Nat)
    (worker : Worker J R) (choice : C) : Option (Runner S J H R N) :=
  match worker.stage with
  | .locking job =>
      if runner.backendOwner = none then
        some ({ runner with backendOwner := some (.worker number) }.setStage number worker
          (.job job))
      else none
  | .job closure => runner.closureStep load number worker .job closure choice
  | .swapping result =>
      some (({ runner with interrupted := false }.setStage number worker
        (if runner.interrupted then .onInterrupt worker.onInterrupt
          else .unlocking (.ok result))).record [.swapped number])
  | .onInterrupt closure => runner.closureStep load number worker .onInterrupt closure choice
  | .unlocking outcome =>
      some ({ runner with backendOwner := none }.setStage number worker (.dropping outcome))
  | .dropping outcome =>
      some ({ runner with strongCount := runner.strongCount - 1 }.setStage number worker
        (.clearing outcome))
  | .clearing outcome =>
      some ({ runner with replayRunning := false }.setStage number worker (.sending outcome))
  | .sending outcome =>
      -- A receiver that was swapped out is gone, and the send fails.
      some ({ runner with
        queue := if runner.rx = some number then runner.queue ++ [(number, outcome)]
          else runner.queue }.setStage number worker .done)
  | .done => none

/-- The receiver's channel has lost its sender. -/
def disconnected (runner : Runner S J H R N) : Bool :=
  match runner.rx with
  | none => true
  | some number =>
      match runner.workers[number]? with
      | none => true
      | some worker => match worker.stage with
        | .done => true
        | _ => false

/-- `map_worker_result`: a panic is mapped with the backend locked. -/
def mapWorkerResult : Outcome R → LoopStage J H
  | .ok _ => .ready
  | .panic _ => .locking .panicMapping

/-- Receive the first outcome of the channel. -/
def receive (runner : Runner S J H R N) : Option (Runner S J H R N) :=
  match runner.queue with
  | [] => none
  | (number, outcome) :: rest =>
      some (({ runner with queue := rest }.goTo (mapWorkerResult outcome)).record
        [.delivered number outcome])

/-- The check of `request_interrupt`. -/
def requestInterrupt (runner : Runner S J H R N) (requester : Requester) : Runner S J H R N :=
  runner.goTo (if runner.replayRunning then .storing requester else requester.resumeAt)

/-- One step of the event loop. -/
def loopStep (load : Workload S J H R N C) (runner : Runner S J H R N)
    (action : LoopAction J C) : Option (Runner S J H R N) :=
  match runner.loop, action with
  | .ready, .start job onInterrupt =>
      if runner.replayRunning then some (runner.record [.refused])
      else some (({ runner with replayRunning := true }.goTo
        (.resetting job onInterrupt)).record [.accepted runner.workers.length])
  | .resetting job onInterrupt, .proceed =>
      some (({ runner with interrupted := false }.goTo (.lockingResume job onInterrupt)).record
        [.reset runner.workers.length])
  | .lockingResume job onInterrupt, .proceed =>
      if runner.backendOwner = none then
        some ({ runner with backendOwner := some .eventLoop }.goTo (.resuming job onInterrupt))
      else none
  | .resuming job onInterrupt, .proceed =>
      some ({ runner with shared := load.beginResume runner.shared }.goTo
        (.releasing job onInterrupt))
  | .releasing job onInterrupt, .proceed =>
      some ({ runner with backendOwner := none }.goTo (.swappingReceiver job onInterrupt))
  | .swappingReceiver job onInterrupt, .proceed =>
      some ({ runner with rx := some runner.workers.length, queue := [] }.goTo
        (.cloning job onInterrupt))
  | .cloning job onInterrupt, .proceed =>
      some ({ runner with strongCount := runner.strongCount + 1 }.goTo
        (.spawning job onInterrupt))
  | .spawning job onInterrupt, .proceed =>
      some ({ runner with workers := runner.workers ++ [Worker.mk onInterrupt (.locking job)] }.goTo
        .ready)
  | .ready, .takeStopReason => some (runner.receive.getD runner)
  | .ready, .waitStopReason =>
      match runner.receive with
      | some next => some next
      | none => if runner.disconnected then some runner else none
  | .ready, .requestInterrupt => some (runner.requestInterrupt .eventLoop)
  | .requesting requester, .proceed => some (runner.requestInterrupt requester)
  | .storing requester, .proceed =>
      some (({ runner with interrupted := true }.goTo (match load.handle with
        | none => requester.resumeAt
        | some handle => .firing handle requester)).record [.stored])
  | .firing handle requester, .proceed =>
      match load.fire handle runner.shared with
      | none => none
      | some (none, shared, notes) =>
          some (({ runner with shared := shared }.goTo requester.resumeAt).record
            (notes.map Event.loopNote))
      | some (some next, shared, notes) =>
          some (({ runner with shared := shared }.goTo (.firing next requester)).record
            (notes.map Event.loopNote))
  | .ready, .onInterrupt =>
      -- A stop that is there already is reported first.
      some (runner.receive.getD (runner.goTo (.requesting .onInterrupt)))
  | .checking, .proceed =>
      if runner.replayRunning then some (runner.goTo .waiting)
      else some ((runner.goTo .ready).record [.noStop])
  | .waiting, .proceed =>
      match runner.receive with
      | some next => some next
      | none =>
          if runner.disconnected then some ((runner.goTo .ready).record [.noStop]) else none
  | .ready, .tryLock =>
      some (runner.goTo (if runner.replayRunning then .ready else .locking .tryLock))
  | .ready, .lock => some (runner.goTo (.locking .blocking))
  | .locking use, .proceed =>
      if runner.backendOwner = none then
        some ({ runner with backendOwner := some .eventLoop }.goTo (.holding use))
      else none
  | .holding _, .serve choice =>
      some { runner with shared := load.serve choice runner.shared }
  | .holding _, .proceed => some ({ runner with backendOwner := none }.goTo .ready)
  | .ready, .access choice =>
      some ({ runner with shared := (load.access choice runner.shared).1 }.record
        ((load.access choice runner.shared).2.map Event.loopNote))
  | .ready, .intoBackend =>
      some (runner.goTo (if runner.replayRunning ∧ load.handle.isSome then
        .requesting .intoBackend else .unwrapping))
  | .polling, .proceed =>
      some (runner.goTo (if runner.replayRunning then .polling else .unwrapping))
  | .polling, .giveUp => some (runner.goTo .unwrapping)
  | .unwrapping, .proceed =>
      -- The receiver is dropped with the rest of the runner.
      some ({ runner with rx := none, queue := [] }.goTo
        (.finished (runner.strongCount == 1)))
  | _, _ => none

/-- One step of the runner. -/
def step (load : Workload S J H R N C) : LStep (Runner S J H R N) (RunnerLabel J C) :=
  fun runner label => match label with
    | .worker number choice =>
        match runner.workers[number]? with
        | none => none
        | some worker => runner.workerStep load number worker choice
    | .loop action => runner.loopStep load action

/-! ## What a step of a worker can do -/

/-- The turns of a worker, each with the runner it leaves. -/
inductive WorkerTurn (load : Workload S J H R N C) (runner next : Runner S J H R N)
    (number : Nat) (worker : Worker J R) (choice : C) : Prop
  | locked (job : J) (at_ : worker.stage = .locking job) (free : runner.backendOwner = none)
      (next_eq : next = { runner with backendOwner := some (.worker number) }.setStage number
        worker (.job job))
  | goesOn (which : Closure) (closure following : J) (shared : S) (notes : List N)
      (at_ : worker.stage = insideClosure which closure)
      (ran : load.run choice closure runner.shared = some (.running following, shared, notes))
      (next_eq : next = ({ runner with shared := shared }.setStage number worker
        (insideClosure which following)).record (notes.map (Event.jobNote number)))
  | ended (which : Closure) (closure : J) (ending : Ending R) (shared : S) (notes : List N)
      (at_ : worker.stage = insideClosure which closure)
      (ran : load.run choice closure runner.shared = some (.ended ending, shared, notes))
      (next_eq : next = ({ runner with shared := shared }.setStage number worker
        (afterClosure which ending)).record
          (notes.map (Event.jobNote number) ++ [Event.ended number which ending]))
  | swapped (result : R) (at_ : worker.stage = .swapping result)
      (next_eq : next = ({ runner with interrupted := false }.setStage number worker
        (if runner.interrupted then .onInterrupt worker.onInterrupt
          else .unlocking (.ok result))).record [.swapped number])
  | unlocked (outcome : Outcome R) (at_ : worker.stage = .unlocking outcome)
      (next_eq : next = { runner with backendOwner := none }.setStage number worker
        (.dropping outcome))
  | dropped (outcome : Outcome R) (at_ : worker.stage = .dropping outcome)
      (next_eq : next = { runner with strongCount := runner.strongCount - 1 }.setStage number
        worker (.clearing outcome))
  | cleared (outcome : Outcome R) (at_ : worker.stage = .clearing outcome)
      (next_eq : next = { runner with replayRunning := false }.setStage number worker
        (.sending outcome))
  | sent (outcome : Outcome R) (at_ : worker.stage = .sending outcome)
      (next_eq : next = { runner with
        queue := if runner.rx = some number then runner.queue ++ [(number, outcome)]
          else runner.queue }.setStage number worker .done)

section WorkerTurn

variable {load : Workload S J H R N C} {runner next : Runner S J H R N} {number : Nat}
  {worker : Worker J R} {choice : C}

theorem workerTurn_closureStep (which : Closure) {closure : J}
    (at_ : worker.stage = insideClosure which closure)
    (stepEq : runner.closureStep load number worker which closure choice = some next) :
    WorkerTurn load runner next number worker choice := by
  unfold closureStep at stepEq
  split at stepEq
  · contradiction
  · rename_i ran
    exact .goesOn which closure _ _ _ at_ ran (Option.some.inj stepEq).symm
  · rename_i ran
    exact .ended which closure _ _ _ at_ ran (Option.some.inj stepEq).symm

/-- The turns are all there are. -/
theorem workerTurn_workerStep
    (stepEq : runner.workerStep load number worker choice = some next) :
    WorkerTurn load runner next number worker choice := by
  unfold workerStep at stepEq
  split at stepEq
  all_goals rename_i at_
  · split at stepEq
    · rename_i free
      exact .locked _ at_ free (Option.some.inj stepEq).symm
    · contradiction
  · exact workerTurn_closureStep .job at_ stepEq
  · exact .swapped _ at_ (Option.some.inj stepEq).symm
  · exact workerTurn_closureStep .onInterrupt at_ stepEq
  · exact .unlocked _ at_ (Option.some.inj stepEq).symm
  · exact .dropped _ at_ (Option.some.inj stepEq).symm
  · exact .cleared _ at_ (Option.some.inj stepEq).symm
  · exact .sent _ at_ (Option.some.inj stepEq).symm
  · contradiction

end WorkerTurn

/-! ## What a step of the event loop can do -/

/-- The turns of the event loop, each with the runner it leaves. -/
inductive LoopTurn (load : Workload S J H R N C) (runner next : Runner S J H R N) :
    LoopAction J C → Prop
  | refused (job onInterrupt : J) (at_ : runner.loop = .ready)
      (running : runner.replayRunning = true) (next_eq : next = runner.record [.refused]) :
      LoopTurn load runner next (.start job onInterrupt)
  | accepted (job onInterrupt : J) (at_ : runner.loop = .ready)
      (idle : runner.replayRunning = false)
      (next_eq : next = ({ runner with replayRunning := true }.goTo
        (.resetting job onInterrupt)).record [.accepted runner.workers.length]) :
      LoopTurn load runner next (.start job onInterrupt)
  | reset (job onInterrupt : J) (at_ : runner.loop = .resetting job onInterrupt)
      (next_eq : next = ({ runner with interrupted := false }.goTo
        (.lockingResume job onInterrupt)).record [.reset runner.workers.length]) :
      LoopTurn load runner next .proceed
  | lockedResume (job onInterrupt : J) (at_ : runner.loop = .lockingResume job onInterrupt)
      (free : runner.backendOwner = none)
      (next_eq : next = { runner with backendOwner := some .eventLoop }.goTo
        (.resuming job onInterrupt)) : LoopTurn load runner next .proceed
  | resumed (job onInterrupt : J) (at_ : runner.loop = .resuming job onInterrupt)
      (next_eq : next = { runner with shared := load.beginResume runner.shared }.goTo
        (.releasing job onInterrupt)) : LoopTurn load runner next .proceed
  | released (job onInterrupt : J) (at_ : runner.loop = .releasing job onInterrupt)
      (next_eq : next = { runner with backendOwner := none }.goTo
        (.swappingReceiver job onInterrupt)) : LoopTurn load runner next .proceed
  | swapped (job onInterrupt : J) (at_ : runner.loop = .swappingReceiver job onInterrupt)
      (next_eq : next = { runner with rx := some runner.workers.length, queue := [] }.goTo
        (.cloning job onInterrupt)) : LoopTurn load runner next .proceed
  | cloned (job onInterrupt : J) (at_ : runner.loop = .cloning job onInterrupt)
      (next_eq : next = { runner with strongCount := runner.strongCount + 1 }.goTo
        (.spawning job onInterrupt)) : LoopTurn load runner next .proceed
  | spawned (job onInterrupt : J) (at_ : runner.loop = .spawning job onInterrupt)
      (next_eq : next = { runner with
        workers := runner.workers ++ [Worker.mk onInterrupt (.locking job)] }.goTo .ready) :
      LoopTurn load runner next .proceed
  | received {action : LoopAction J C} (at_ : runner.loop = .ready ∨ runner.loop = .waiting)
      (received : runner.receive = some next) : LoopTurn load runner next action
  | nothing {action : LoopAction J C} (at_ : runner.loop = .ready)
      (empty : runner.receive = none) (next_eq : next = runner) : LoopTurn load runner next action
  | noStop (at_ : runner.loop = .checking ∨ runner.loop = .waiting)
      (next_eq : next = (runner.goTo .ready).record [.noStop]) :
      LoopTurn load runner next .proceed
  | asked (at_ : runner.loop = .ready)
      (next_eq : next = runner.requestInterrupt .eventLoop) :
      LoopTurn load runner next .requestInterrupt
  | requested (requester : Requester) (at_ : runner.loop = .requesting requester)
      (next_eq : next = runner.requestInterrupt requester) : LoopTurn load runner next .proceed
  | stored (requester : Requester) (at_ : runner.loop = .storing requester)
      (next_eq : next = ({ runner with interrupted := true }.goTo
        (requester.afterFire load.handle)).record [.stored]) : LoopTurn load runner next .proceed
  | fired (handle : H) (requester : Requester) (rest : Option H) (shared : S) (notes : List N)
      (at_ : runner.loop = .firing handle requester)
      (fire : load.fire handle runner.shared = some (rest, shared, notes))
      (next_eq : next = ({ runner with shared := shared }.goTo
        (requester.afterFire rest)).record (notes.map Event.loopNote)) :
      LoopTurn load runner next .proceed
  | interrupting (at_ : runner.loop = .ready)
      (next_eq : next = runner.goTo (.requesting .onInterrupt)) :
      LoopTurn load runner next .onInterrupt
  | waits (at_ : runner.loop = .checking) (running : runner.replayRunning = true)
      (next_eq : next = runner.goTo .waiting) : LoopTurn load runner next .proceed
  | triedLock (at_ : runner.loop = .ready)
      (next_eq : next = runner.goTo (if runner.replayRunning then .ready else .locking .tryLock)) :
      LoopTurn load runner next .tryLock
  | wantsLock (at_ : runner.loop = .ready) (next_eq : next = runner.goTo (.locking .blocking)) :
      LoopTurn load runner next .lock
  | locked (use : LockUse) (at_ : runner.loop = .locking use) (free : runner.backendOwner = none)
      (next_eq : next = { runner with backendOwner := some .eventLoop }.goTo (.holding use)) :
      LoopTurn load runner next .proceed
  | served (choice : C) (use : LockUse) (at_ : runner.loop = .holding use)
      (next_eq : next = { runner with shared := load.serve choice runner.shared }) :
      LoopTurn load runner next (.serve choice)
  | unlocked (use : LockUse) (at_ : runner.loop = .holding use)
      (next_eq : next = { runner with backendOwner := none }.goTo .ready) :
      LoopTurn load runner next .proceed
  | accessed (choice : C) (at_ : runner.loop = .ready)
      (next_eq : next = { runner with shared := (load.access choice runner.shared).1 }.record
        ((load.access choice runner.shared).2.map Event.loopNote)) :
      LoopTurn load runner next (.access choice)
  | leaving (at_ : runner.loop = .ready)
      (next_eq : next = runner.goTo (if runner.replayRunning ∧ load.handle.isSome then
        .requesting .intoBackend else .unwrapping)) : LoopTurn load runner next .intoBackend
  | polled (at_ : runner.loop = .polling)
      (next_eq : next = runner.goTo (if runner.replayRunning then .polling else .unwrapping)) :
      LoopTurn load runner next .proceed
  | gaveUp (at_ : runner.loop = .polling) (next_eq : next = runner.goTo .unwrapping) :
      LoopTurn load runner next .giveUp
  | closed (at_ : runner.loop = .unwrapping)
      (next_eq : next = { runner with rx := none, queue := [] }.goTo
        (.finished (runner.strongCount == 1))) : LoopTurn load runner next .proceed

section LoopTurn

variable {load : Workload S J H R N C} {runner next : Runner S J H R N} {action : LoopAction J C}

/-- An outcome that is there is received first. -/
theorem LoopTurn.receiveFirst {after : Runner S J H R N} (at_ : runner.loop = .ready)
    (turn : runner.receive = none → LoopTurn load runner after action) :
    LoopTurn load runner (runner.receive.getD after) action := by
  cases received : runner.receive with
  | none => exact turn received
  | some taken => exact .received (.inl at_) received

/-- The turns are all there are. -/
theorem loopTurn_loopStep (stepEq : runner.loopStep load action = some next) :
    LoopTurn load runner next action := by
  unfold loopStep at stepEq
  split at stepEq
  all_goals rename_i at_
  -- The steps of `start`, until the worker is spawned.
  · split at stepEq
    · rename_i running
      exact .refused _ _ at_ running (Option.some.inj stepEq).symm
    · rename_i idle
      exact .accepted _ _ at_ (by simpa using idle) (Option.some.inj stepEq).symm
  · exact .reset _ _ at_ (Option.some.inj stepEq).symm
  · split at stepEq
    · rename_i free
      exact .lockedResume _ _ at_ free (Option.some.inj stepEq).symm
    · contradiction
  · exact .resumed _ _ at_ (Option.some.inj stepEq).symm
  · exact .released _ _ at_ (Option.some.inj stepEq).symm
  · exact .swapped _ _ at_ (Option.some.inj stepEq).symm
  · exact .cloned _ _ at_ (Option.some.inj stepEq).symm
  · exact .spawned _ _ at_ (Option.some.inj stepEq).symm
  -- `take_stop_reason` and `wait_stop_reason`.
  · cases stepEq
    exact .receiveFirst at_ fun empty => .nothing at_ empty rfl
  · split at stepEq
    · rename_i received
      cases stepEq
      exact .received (.inl at_) received
    · rename_i empty
      split at stepEq
      · exact .nothing at_ empty (Option.some.inj stepEq).symm
      · contradiction
  -- `request_interrupt` and the handle.
  · exact .asked at_ (Option.some.inj stepEq).symm
  · exact .requested _ at_ (Option.some.inj stepEq).symm
  · cases stepEq
    refine .stored _ at_ ?_
    cases load.handle <;> rfl
  · split at stepEq
    · contradiction
    · rename_i fire
      exact .fired _ _ none _ _ at_ fire (Option.some.inj stepEq).symm
    · rename_i fire
      exact .fired _ _ (some _) _ _ at_ fire (Option.some.inj stepEq).symm
  -- The session's `on_interrupt`.
  · cases stepEq
    exact .receiveFirst at_ fun _ => .interrupting at_ rfl
  · split at stepEq
    · rename_i running
      exact .waits at_ running (Option.some.inj stepEq).symm
    · exact .noStop (.inl at_) (Option.some.inj stepEq).symm
  · split at stepEq
    · rename_i received
      cases stepEq
      exact .received (.inr at_) received
    · split at stepEq
      · exact .noStop (.inr at_) (Option.some.inj stepEq).symm
      · contradiction
  -- The locks and what is done under them.
  · exact .triedLock at_ (Option.some.inj stepEq).symm
  · exact .wantsLock at_ (Option.some.inj stepEq).symm
  · split at stepEq
    · rename_i free
      exact .locked _ at_ free (Option.some.inj stepEq).symm
    · contradiction
  · exact .served _ _ at_ (Option.some.inj stepEq).symm
  · exact .unlocked _ at_ (Option.some.inj stepEq).symm
  · exact .accessed _ at_ (Option.some.inj stepEq).symm
  -- `into_backend`.
  · exact .leaving at_ (Option.some.inj stepEq).symm
  · exact .polled at_ (Option.some.inj stepEq).symm
  · exact .gaveUp at_ (Option.some.inj stepEq).symm
  · exact .closed at_ (Option.some.inj stepEq).symm
  · contradiction

end LoopTurn

end Runner

end TtdGdbserver.Gdb
