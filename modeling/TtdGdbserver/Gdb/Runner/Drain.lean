import TtdGdbserver.Gdb.Runner.Core

/-!
# A job that nobody disturbs

A job that is started on an idle runner and that no interrupt request reaches
delivers what its closure ends with.
-/

namespace TtdGdbserver.Gdb

open TtdGdbserver.Transition

variable {S J H R N C : Type}

/-- Run a closure to its end, with one choice for each of its steps. -/
def Workload.complete (load : Workload S J H R N C) :
    List C → J → S → Option (Ending R × S × List N)
  | [], _, _ => none
  | choice :: choices, closure, shared =>
      match load.run choice closure shared with
      | none => none
      | some (.ended ending, shared, notes) =>
          if choices = [] then some (ending, shared, notes) else none
      | some (.running next, shared, notes) =>
          (load.complete choices next shared).map fun (ending, shared, more) =>
            (ending, shared, notes ++ more)

variable {load : Workload S J H R N C} {choice : C} {choices : List C} {closure next : J}
variable {shared middle final : S} {notes all : List N} {ending last : Ending R}

theorem Workload.complete_ended
    (stepEq : load.run choice closure shared = some (.ended ending, middle, notes))
    (done : load.complete (choice :: choices) closure shared = some (last, final, all)) :
    last = ending ∧ final = middle ∧ all = notes := by
  simp only [complete, stepEq] at done
  split at done
  · cases done
    exact ⟨rfl, rfl, rfl⟩
  · contradiction

theorem Workload.complete_running
    (stepEq : load.run choice closure shared = some (.running next, middle, notes))
    (done : load.complete (choice :: choices) closure shared = some (last, final, all)) :
    ∃ more, load.complete choices next middle = some (last, final, more) ∧
      all = notes ++ more := by
  simp only [complete, stepEq, Option.map_eq_some_iff] at done
  obtain ⟨⟨ending, shared, more⟩, rest, same⟩ := done
  cases same
  exact ⟨more, rest, rfl⟩

/-! ## The run of the runner behind it -/

namespace Runner

/-- What the worker publishes when nobody interrupted its job. -/
def outcomeOf : Ending R → Outcome R
  | .returned result => .ok result
  | .panicked payload => .panic (.fromPayload payload)

variable {runner : Runner S J H R N} {number : Nat} {worker : Worker J R}

/-- No job is in flight and no stop waits to be delivered. -/
structure AtRest (runner : Runner S J H R N) : Prop where
  ready : runner.loop = .ready
  idle : runner.replayRunning = false
  unlocked : runner.backendOwner = none
  empty : runner.queue = []

theorem step_worker (load : Workload S J H R N C) (at_ : runner.workers[number]? = some worker)
    (choice : C) : step load runner (.worker number choice) =
      runner.workerStep load number worker choice := by
  simp only [step, at_]

theorem getElem?_set_stage {workers : List (Worker J R)} (at_ : workers[number]? = some worker)
    (stage : WorkerStage J R) :
    (workers.set number { worker with stage := stage })[number]? =
      some { worker with stage := stage } := by
  obtain ⟨inside, -⟩ := List.getElem?_eq_some_iff.mp at_
  exact List.getElem?_set_self inside

/-- The runner after an accepted `start`. -/
def afterStart (load : Workload S J H R N C) (runner : Runner S J H R N) (job onInterrupt : J) :
    Runner S J H R N :=
  { runner with
    shared := load.beginResume runner.shared
    strongCount := runner.strongCount + 1
    interrupted := false
    replayRunning := true
    rx := some runner.workers.length
    workers := runner.workers ++ [⟨onInterrupt, .locking job⟩]
    history := (runner.history ++ [.accepted runner.workers.length]) ++
      [.reset runner.workers.length] }

theorem AtRest.exec_start (rest : runner.AtRest) (load : Workload S J H R N C)
    (job onInterrupt : J) :
    exec (step load) runner
        (.loop (.start job onInterrupt) :: List.replicate 7 (.loop .proceed)) =
      some (runner.afterStart load job onInterrupt) := by
  rcases runner with ⟨shared, owner, count, flag, running, rx, queue, loop, workers, history⟩
  rcases rest with ⟨ready, idle, unlocked, empty⟩
  dsimp only at ready idle unlocked empty
  subst ready idle unlocked empty
  rfl

theorem exec_lock (load : Workload S J H R N C) (choice : C)
    (at_ : runner.workers[number]? = some worker) {job : J}
    (locking : worker.stage = .locking job) (unlocked : runner.backendOwner = none) :
    exec (step load) runner [.worker number choice] =
      some ({ runner with backendOwner := some (.worker number) }.setStage number worker
        (.job job)) := by
  rw [exec_cons, step_worker load at_, workerStep, locking]
  simp only [unlocked, if_true, Option.bind_some, exec_nil]

theorem exec_swap (load : Workload S J H R N C) (choice : C)
    (at_ : runner.workers[number]? = some worker) {result : R}
    (swapping : worker.stage = .swapping result) (calm : runner.interrupted = false) :
    exec (step load) runner [.worker number choice] =
      some ((runner.setStage number worker (.unlocking (.ok result))).record
        [.swapped number]) := by
  rw [exec_cons, step_worker load at_, workerStep, swapping]
  simp only [calm, Bool.false_eq_true, if_false, Option.bind_some, exec_nil]
  rw [← calm]

/-- The worker runs the closure to its end. -/
theorem exec_closure (at_ : runner.workers[number]? = some worker)
    (inside : worker.stage = .job closure)
    (done : load.complete choices closure runner.shared = some (ending, final, notes)) :
    exec (step load) runner (choices.map (.worker number)) =
      some (({ runner with shared := final }.setStage number worker
        (afterClosure .job ending)).record
          (notes.map (Event.jobNote number) ++ [Event.ended number .job ending])) := by
  induction choices generalizing runner worker closure notes with
  | nil => cases done
  | cons choice choices ih =>
      rw [List.map_cons, exec_cons, step_worker load at_, workerStep, inside]
      dsimp only
      cases ran : load.run choice closure runner.shared with
      | none => simp [Workload.complete, ran] at done
      | some result =>
          obtain ⟨progress, middle, made⟩ := result
          cases progress with
          | ended ended =>
              obtain ⟨rfl, rfl, rfl⟩ := Workload.complete_ended ran done
              have last : choices = [] := by
                by_contra more
                simp [Workload.complete, ran, more] at done
              simp [closureStep, ran, last]
          | running next =>
              obtain ⟨more, goesOn, rfl⟩ := Workload.complete_running ran done
              simp only [closureStep, ran, Option.bind_some]
              rw [ih (getElem?_set_stage at_ _) rfl goesOn]
              simp [setStage, record]

/-- The worker publishes the outcome and the event loop takes it. -/
theorem exec_publish (load : Workload S J H R N C) (choice : C)
    (at_ : runner.workers[number]? = some worker)
    {outcome : Outcome R} (ended : worker.stage = .unlocking outcome)
    (subscribed : runner.rx = some number) (empty : runner.queue = [])
    (ready : runner.loop = .ready) :
    exec (step load) runner
        (List.replicate 4 (.worker number choice) ++ [.loop .takeStopReason]) =
      some { runner with
        backendOwner := none, strongCount := runner.strongCount - 1, replayRunning := false,
        loop := mapWorkerResult outcome,
        workers := runner.workers.set number ⟨worker.onInterrupt, .done⟩,
        history := runner.history ++ [.delivered number outcome] } := by
  obtain ⟨inside, -⟩ := List.getElem?_eq_some_iff.mp at_
  rcases worker with ⟨onInterrupt, stage⟩
  dsimp only at ended
  subst ended
  rcases runner with ⟨shared, owner, count, flag, running, rx, queue, loop, workers, history⟩
  dsimp only at at_ inside subscribed empty ready
  subst subscribed empty ready
  have found (stage : WorkerStage J R) :
      (workers.set number ⟨onInterrupt, stage⟩)[number]? = some ⟨onInterrupt, stage⟩ :=
    List.getElem?_set_self inside
  simp only [List.replicate, List.cons_append, List.nil_append, exec_cons, exec_nil, step, at_,
    workerStep, setStage, Option.bind_some, found, List.set_set, if_true]
  rfl

/-- The end of a job that nobody interrupted. -/
def closing (number : Nat) : Ending R → List (Event R N)
  | .returned result => [.ended number .job (.returned result), .swapped number]
  | .panicked payload => [.ended number .job (.panicked payload)]

/-- The runner delivers what the closure ends with, after its notes. -/
structure Delivers (runner next : Runner S J H R N) (ending : Ending R) (final : S)
    (notes : List N) : Prop where
  shared : next.shared = final
  loop : next.loop = mapWorkerResult (outcomeOf ending)
  idle : next.replayRunning = false
  unlocked : next.backendOwner = none
  empty : next.queue = []
  history : next.history = runner.history ++
    ([.accepted runner.workers.length, .reset runner.workers.length] ++
      notes.map (Event.jobNote runner.workers.length) ++ closing runner.workers.length ending ++
      [.delivered runner.workers.length (outcomeOf ending)])

/-- A closure that runs to its end is a job that the runner delivers. -/
theorem AtRest.delivers (rest : runner.AtRest) {job : J} (onInterrupt : J)
    (done : load.complete choices job (load.beginResume runner.shared) =
      some (ending, final, notes)) :
    ∃ labels next, exec (step load) runner labels = some next ∧
      runner.Delivers next ending final notes := by
  cases some_ : choices with
  | nil =>
      rw [some_] at done
      cases done
  | cons choice others =>
      have found : (runner.afterStart load job onInterrupt).workers[runner.workers.length]? =
          some ⟨onInterrupt, .locking job⟩ := List.getElem?_concat_length
      have locked := getElem?_set_stage found (.job job)
      have ended := getElem?_set_stage locked (afterClosure .job ending)
      have started := exec_trans (rest.exec_start load job onInterrupt)
        (exec_lock load choice found rfl rest.unlocked)
      have ran := exec_trans started (exec_closure locked rfl done)
      cases ending with
      | returned result =>
          have swapped := exec_trans ran (exec_swap load choice ended rfl rfl)
          refine ⟨_, _, exec_trans swapped (exec_publish load choice (getElem?_set_stage ended _)
            rfl rfl rest.empty rest.ready), rfl, rfl, rfl, rfl, rest.empty, ?_⟩
          simp [afterStart, closing, outcomeOf]
      | panicked payload =>
          refine ⟨_, _, exec_trans ran
            (exec_publish load choice ended rfl rfl rest.empty rest.ready),
            rfl, rfl, rfl, rfl, rest.empty, ?_⟩
          simp [afterStart, closing, outcomeOf]

end Runner

end TtdGdbserver.Gdb
