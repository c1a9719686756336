import Mathlib.Algebra.GroupWithZero.Nat
import TtdGdbserver.Gdb.Runner.Channel
import TtdGdbserver.Transition.Inevitable

/-!
# The runner never hangs

The event loop waits for a worker in three places: for the backend mutex, in
`wait_result` and in `on_interrupt`.  As long as the closures themselves come
to an end, every call returns and every job in flight publishes its outcome,
however the threads are scheduled.
-/

namespace TtdGdbserver.Gdb

open TtdGdbserver.Transition

variable {S J H R N C : Type}

/-! ## Closures that end -/

/-- Closures that never wait and end after a number of steps known beforehand,
whatever the other thread does to the shared memory, and a handle that does the
same. -/
structure Workload.Bounded (load : Workload S J H R N C) (cost : J → Nat)
    (handleCost : H → Nat) : Prop where
  runs : ∀ closure shared, ∃ choice, (load.run choice closure shared).isSome
  falls : ∀ {choice closure shared next after notes},
    load.run choice closure shared = some (.running next, after, notes) →
      cost next < cost closure
  fires : ∀ handle shared, (load.fire handle shared).isSome
  handleFalls : ∀ {handle shared next after notes},
    load.fire handle shared = some (some next, after, notes) →
      handleCost next < handleCost handle

theorem bounded_immediate : immediate.Bounded (fun _ => 0) (fun _ => 0) where
  runs _ _ := ⟨(), rfl⟩
  falls := by simp [immediate]
  fires _ _ := rfl
  handleFalls := by simp [immediate]

/-- How many more steps a worker takes. -/
def Worker.remaining (cost : J → Nat) (worker : Worker J R) : Nat :=
  match worker.stage with
  | .locking job => cost job + cost worker.onInterrupt + 8
  | .job closure => cost closure + cost worker.onInterrupt + 7
  | .swapping _ => cost worker.onInterrupt + 6
  | .onInterrupt closure => cost closure + 5
  | .unlocking _ => 4
  | .dropping _ => 3
  | .clearing _ => 2
  | .sending _ => 1
  | .done => 0

namespace LoopStage

/-- The event loop is in a call that it has to finish before it takes another
decision. -/
def inCall : LoopStage J H → Bool
  | .ready | .holding _ | .polling | .unwrapping | .finished _ => false
  | _ => true

/-- How many more steps the event loop takes until its call returns; `first` is
what the handle costs from its start. -/
def remaining (handleCost : H → Nat) (first : Nat) : LoopStage J H → Nat
  | .resetting .. => 7
  | .lockingResume .. => 6
  | .resuming .. => 5
  | .releasing .. => 4
  | .swappingReceiver .. => 3
  | .cloning .. => 2
  | .spawning .. => 1
  | .requesting _ => first + 6
  | .storing _ => first + 5
  | .firing handle _ => handleCost handle + 4
  | .checking => 3
  | .waiting => 2
  | .locking _ => 1
  | .ready | .holding _ | .polling | .unwrapping | .finished _ => 0

theorem remaining_resumeAt (handleCost : H → Nat) (first : Nat) (requester : Requester) :
    (requester.resumeAt : LoopStage J H).remaining handleCost first ≤ 3 := by
  cases requester <;> simp [Requester.resumeAt, remaining]

end LoopStage

/-- A step of a worker. -/
def RunnerLabel.isWorker : RunnerLabel J C → Prop
  | .worker .. => True
  | .loop _ => False

/-- A step that no decision of the event loop is behind. -/
def RunnerLabel.goesOn : RunnerLabel J C → Prop
  | .worker .. | .loop .proceed => True
  | .loop _ => False

namespace Runner

variable {load : Workload S J H R N C} {cost : J → Nat} {handleCost : H → Nat}
variable {runner next : Runner S J H R N}

/-- How many more steps the workers take. -/
def workersRemaining (cost : J → Nat) (runner : Runner S J H R N) : Nat :=
  (runner.workers.map (Worker.remaining cost)).sum

/-- What the interrupt handle costs from its start. -/
def firstCost (load : Workload S J H R N C) (handleCost : H → Nat) : Nat :=
  (load.handle.map handleCost).getD 0

/-- How many more steps are taken until the call in progress returns. -/
def stepsRemaining (load : Workload S J H R N C) (cost : J → Nat) (handleCost : H → Nat)
    (runner : Runner S J H R N) : Nat :=
  runner.workersRemaining cost + runner.loop.remaining handleCost (firstCost load handleCost)

/-! ## Every step counts down -/

theorem sum_map_set_lt {α : Type} {items : List α} {measure : α → Nat} {index : Nat}
    {item item' : α} (found : items[index]? = some item) (smaller : measure item' < measure item) :
    ((items.set index item').map measure).sum < (items.map measure).sum := by
  induction items generalizing index with
  | nil => simp at found
  | cons head rest ih =>
      cases index with
      | zero =>
          cases found
          simpa using smaller
      | succ index =>
          rw [List.getElem?_cons_succ] at found
          simpa using ih found

/-- A step of a worker brings that worker nearer to its end. -/
theorem remaining_workerTurn {number : Nat} {worker : Worker J R} {choice : C}
    (bounded : load.Bounded cost handleCost)
    (turn : WorkerTurn load runner next number worker choice) :
    ∃ stage, next.workers = runner.workers.set number { worker with stage := stage } ∧
      Worker.remaining cost { worker with stage := stage } < worker.remaining cost := by
  rcases worker with ⟨onInterrupt, stage⟩
  cases turn with
  | locked job at_ free next_eq =>
      cases at_
      exact ⟨_, by rw [next_eq]; rfl, by simp [Worker.remaining]⟩
  | goesOn which closure following shared notes at_ ran next_eq =>
      have falls := bounded.falls ran
      cases at_
      refine ⟨_, by rw [next_eq]; rfl, ?_⟩
      cases which <;> simpa [Worker.remaining, insideClosure] using falls
  | ended which closure ending shared notes at_ ran next_eq =>
      cases at_
      refine ⟨_, by rw [next_eq]; rfl, ?_⟩
      cases which <;> cases ending <;> simp only [Worker.remaining, afterClosure] <;> omega
  | swapped result at_ next_eq =>
      cases at_
      refine ⟨_, by rw [next_eq]; rfl, ?_⟩
      cases runner.interrupted <;>
        simp only [Worker.remaining, if_true, Bool.false_eq_true, if_false] <;> omega
  | unlocked outcome at_ next_eq =>
      cases at_
      exact ⟨_, by rw [next_eq]; rfl, by simp [Worker.remaining]⟩
  | dropped outcome at_ next_eq =>
      cases at_
      exact ⟨_, by rw [next_eq]; rfl, by simp [Worker.remaining]⟩
  | cleared outcome at_ next_eq =>
      cases at_
      exact ⟨_, by rw [next_eq]; rfl, by simp [Worker.remaining]⟩
  | sent outcome at_ next_eq =>
      cases at_
      exact ⟨_, by rw [next_eq]; rfl, by simp [Worker.remaining]⟩

theorem workersRemaining_lt {number : Nat} {choice : C} (bounded : load.Bounded cost handleCost)
    (stepEq : Runner.step load runner (.worker number choice) = some next) :
    next.workersRemaining cost < runner.workersRemaining cost ∧ next.loop = runner.loop := by
  simp only [Runner.step] at stepEq
  split at stepEq
  · contradiction
  · rename_i worker found
    obtain ⟨stage, workers, fewer⟩ := remaining_workerTurn bounded (workerTurn_workerStep stepEq)
    obtain ⟨_, _, acted⟩ := acted_workerStep stepEq
    refine ⟨?_, acted.loop⟩
    rw [workersRemaining, workers]
    exact sum_map_set_lt found fewer

theorem remaining_mapWorkerResult (outcome : Outcome R) (first : Nat) :
    (mapWorkerResult outcome : LoopStage J H).remaining handleCost first < 2 := by
  cases outcome <;> simp [mapWorkerResult, LoopStage.remaining]

theorem remaining_receive (handleCost : H → Nat) (first : Nat)
    (received : runner.receive = some next) :
    next.workers = runner.workers ∧ next.loop.remaining handleCost first < 2 := by
  unfold Runner.receive at received
  split at received
  · contradiction
  · cases received
    exact ⟨rfl, remaining_mapWorkerResult _ first⟩

/-- A step of the event loop ends its call or brings it nearer to its end. -/
theorem remaining_proceed (bounded : load.Bounded cost handleCost)
    (stepEq : runner.loopStep load .proceed = some next) (busy : runner.loop.inCall = true) :
    next.loop.inCall = false ∨ next.workers = runner.workers ∧
      next.loop.remaining handleCost (firstCost load handleCost) <
        runner.loop.remaining handleCost (firstCost load handleCost) := by
  cases at_ : runner.loop with
  | ready | holding | polling | unwrapping | finished => simp [at_, LoopStage.inCall] at busy
  | resetting | resuming | releasing | swappingReceiver | cloning =>
      simp only [loopStep, at_, Option.some.injEq] at stepEq
      subst stepEq
      exact .inr ⟨rfl, by simp [LoopStage.remaining]⟩
  | spawning =>
      simp only [loopStep, at_, Option.some.injEq] at stepEq
      subst stepEq
      exact .inl rfl
  | lockingResume =>
      simp only [loopStep, at_, Option.ite_none_right_eq_some, Option.some.injEq] at stepEq
      obtain ⟨_, rfl⟩ := stepEq
      exact .inr ⟨rfl, by simp [LoopStage.remaining]⟩
  | locking =>
      simp only [loopStep, at_, Option.ite_none_right_eq_some, Option.some.injEq] at stepEq
      obtain ⟨_, rfl⟩ := stepEq
      exact .inl rfl
  | requesting requester =>
      simp only [loopStep, at_, Option.some.injEq] at stepEq
      subst stepEq
      have resumes := LoopStage.remaining_resumeAt (J := J) handleCost
        (firstCost load handleCost) requester
      refine .inr ⟨rfl, ?_⟩
      unfold requestInterrupt
      split
      · simp [LoopStage.remaining]
      · exact Nat.lt_of_le_of_lt resumes (by simp only [LoopStage.remaining]; omega)
  | storing requester =>
      simp only [loopStep, at_, Option.some.injEq] at stepEq
      subst stepEq
      have resumes := LoopStage.remaining_resumeAt (J := J) handleCost
        (firstCost load handleCost) requester
      refine .inr ⟨rfl, ?_⟩
      cases handled : load.handle with
      | none =>
          exact Nat.lt_of_le_of_lt resumes (by simp only [LoopStage.remaining]; omega)
      | some handle => simp [firstCost, handled, LoopStage.remaining]
  | firing handle requester =>
      have resumes := LoopStage.remaining_resumeAt (J := J) handleCost
        (firstCost load handleCost) requester
      simp only [loopStep, at_] at stepEq
      split at stepEq
      · contradiction
      · cases stepEq
        exact .inr ⟨rfl, Nat.lt_of_le_of_lt resumes (by simp only [LoopStage.remaining]; omega)⟩
      · rename_i fired
        cases stepEq
        exact .inr ⟨rfl, by simpa [LoopStage.remaining] using bounded.handleFalls fired⟩
  | checking =>
      simp only [loopStep, at_] at stepEq
      split at stepEq
      · cases stepEq
        exact .inr ⟨rfl, by simp [LoopStage.remaining]⟩
      · cases stepEq
        exact .inl rfl
  | waiting =>
      simp only [loopStep, at_] at stepEq
      split at stepEq
      · rename_i received
        cases stepEq
        obtain ⟨workers, fewer⟩ :=
          remaining_receive handleCost (firstCost load handleCost) received
        exact .inr ⟨workers, by simpa [LoopStage.remaining] using fewer⟩
      · simp only [Option.ite_none_right_eq_some, Option.some.injEq] at stepEq
        obtain ⟨_, rfl⟩ := stepEq
        exact .inl rfl

/-! ## Nobody gets stuck -/

/-- The worker that owns the backend goes on. -/
theorem Exclusive.worker_enabled_of_owner (exclusive : Exclusive runner)
    (bounded : load.Bounded cost handleCost) {number : Nat}
    (owned : runner.backendOwner = some (.worker number)) :
    ∃ choice next, Runner.step load runner (.worker number choice) = some next := by
  have inside := exclusive.spawned number owned
  have found := List.getElem?_eq_getElem inside
  have holds := (exclusive.workerGuard number _ found).mpr owned
  generalize runner.workers[number] = worker at found holds
  obtain ⟨choice, -⟩ := bounded.runs worker.onInterrupt runner.shared
  have closes : ∀ (which : Closure) (closure : J), ∃ choice next,
      runner.closureStep load number worker which closure choice = some next := by
    intro which closure
    obtain ⟨choice, ran⟩ := bounded.runs closure runner.shared
    obtain ⟨⟨progress, shared, notes⟩, ran⟩ := Option.isSome_iff_exists.mp ran
    cases progress <;> exact ⟨choice, _, by simp only [closureStep, ran]; rfl⟩
  simp only [Runner.step, found]
  unfold workerStep
  cases stage : worker.stage with
  | job closure => exact closes .job closure
  | onInterrupt closure => exact closes .onInterrupt closure
  | swapping | unlocking => exact ⟨choice, _, rfl⟩
  | locking | dropping | clearing | sending | done =>
      simp [stage, WorkerStage.holdsGuard] at holds

/-- While the event loop keeps away from the backend, an unfinished worker
means that some worker goes on. -/
theorem Exclusive.worker_enabled (exclusive : Exclusive runner)
    (bounded : load.Bounded cost handleCost) (released : runner.loop.holdsGuard = false)
    {number : Nat} {worker : Worker J R} (found : runner.workers[number]? = some worker)
    (unfinished : worker.stage ≠ .done) :
    ∃ number choice next, Runner.step load runner (.worker number choice) = some next := by
  cases owner : runner.backendOwner with
  | some holder =>
      cases holder with
      | eventLoop =>
          have held := exclusive.loopGuard.mpr owner
          rw [released] at held
          contradiction
      | worker holder => exact ⟨holder, exclusive.worker_enabled_of_owner bounded owner⟩
  | none =>
      obtain ⟨choice, -⟩ := bounded.runs worker.onInterrupt runner.shared
      refine ⟨number, ?_⟩
      have idle : worker.stage.holdsGuard ≠ true := by
        intro holds
        have owned := (exclusive.workerGuard number worker found).mp holds
        rw [owner] at owned
        contradiction
      simp only [Runner.step, found]
      unfold workerStep
      cases stage : worker.stage with
      | locking job => exact ⟨choice, _, if_pos owner⟩
      | dropping | clearing | sending => exact ⟨choice, _, rfl⟩
      | done => exact absurd stage unfinished
      | job | swapping | onInterrupt | unlocking =>
          simp [stage, WorkerStage.holdsGuard] at idle

/-- A lock that the event loop waits for is free, or its owner goes on. -/
theorem Exclusive.lock_or_worker_enabled (exclusive : Exclusive runner)
    (bounded : load.Bounded cost handleCost) (released : runner.loop.holdsGuard = false) :
    runner.backendOwner = none ∨
      ∃ number choice next, Runner.step load runner (.worker number choice) = some next := by
  cases owner : runner.backendOwner with
  | none => exact .inl rfl
  | some holder =>
      cases holder with
      | eventLoop =>
          have held := exclusive.loopGuard.mpr owner
          rw [released] at held
          contradiction
      | worker holder => exact .inr ⟨holder, exclusive.worker_enabled_of_owner bounded owner⟩

/-- A call of the event loop goes on, or a worker does. -/
theorem Exclusive.call_enabled (exclusive : Exclusive runner)
    (bounded : load.Bounded cost handleCost) (busy : runner.loop.inCall = true) :
    ∃ label next, RunnerLabel.goesOn label ∧ Runner.step load runner label = some next := by
  have ofWorker :
      (∃ number choice next, Runner.step load runner (.worker number choice) = some next) →
      ∃ label next, RunnerLabel.goesOn label ∧ Runner.step load runner label = some next := by
    rintro ⟨number, choice, next, stepEq⟩
    exact ⟨.worker number choice, next, trivial, stepEq⟩
  have ofLoop : (runner.loopStep load .proceed).isSome →
      ∃ label next, RunnerLabel.goesOn label ∧ Runner.step load runner label = some next := by
    intro enabled
    obtain ⟨next, stepEq⟩ := Option.isSome_iff_exists.mp enabled
    exact ⟨.loop .proceed, next, trivial, stepEq⟩
  cases at_ : runner.loop with
  | ready | holding | polling | unwrapping | finished => simp [at_, LoopStage.inCall] at busy
  | resetting | resuming | releasing | swappingReceiver | cloning | spawning | requesting
  | storing => exact ofLoop (by simp [Runner.loopStep, at_])
  | lockingResume | locking =>
      rcases exclusive.lock_or_worker_enabled bounded (by simp [at_, LoopStage.holdsGuard])
        with free | goes
      · exact ofLoop (by simp [Runner.loopStep, at_, free])
      · exact ofWorker goes
  | firing handle requester =>
      obtain ⟨⟨following, shared, notes⟩, fired⟩ :=
        Option.isSome_iff_exists.mp (bounded.fires handle runner.shared)
      cases following <;> exact ofLoop (by simp [Runner.loopStep, at_, fired])
  | checking => exact ofLoop (by simp only [Runner.loopStep, at_]; split <;> rfl)
  | waiting =>
      have released : runner.loop.holdsGuard = false := by rw [at_]; rfl
      cases received : runner.receive with
      | some next => exact ofLoop (by simp [Runner.loopStep, at_, received])
      | none =>
          by_cases gone : runner.disconnected = true
          · exact ofLoop (by simp [Runner.loopStep, at_, received, gone])
          · unfold disconnected at gone
            split at gone
            · contradiction
            · split at gone
              · contradiction
              · rename_i worker found
                apply ofWorker
                apply exclusive.worker_enabled bounded released found
                intro done
                simp [done] at gone

/-! ## What every schedule leads to -/

/-- The event loop does not hang, and neither does a job. -/
structure NeverHangs (load : Workload S J H R N C) (runner : Runner S J H R N) : Prop where
  /-- The call in progress returns. -/
  returns : Inevitable (Runner.step load) RunnerLabel.goesOn
    (fun runner : Runner S J H R N => runner.loop.inCall = false) runner
  /-- A job in flight publishes its outcome, unless the event loop keeps the
  backend to itself. -/
  publishes : runner.loop.starting = false → runner.loop.holdsGuard = false →
    runner.inFlight = true → Inevitable (Runner.step load) RunnerLabel.isWorker
      (fun finish : Runner S J H R N => finish.inFlight = false ∧
        ∃ number outcome, number + 1 = runner.workers.length ∧
          finish.queue = [(number, outcome)]) runner

/-- A goal that some worker still works for is inevitable. -/
theorem inevitable_of_workers {goal : Runner S J H R N → Prop}
    (bounded : load.Bounded cost handleCost) (inv : Runner S J H R N → Prop)
    (kept : ∀ {state next : Runner S J H R N} {number : Nat} {choice : C}, inv state →
      Runner.step load state (.worker number choice) = some next → inv next)
    (moves : ∀ {state : Runner S J H R N}, inv state → ¬ goal state →
      ∃ number choice next, Runner.step load state (.worker number choice) = some next)
    (initial : inv runner) :
    Inevitable (Runner.step load) RunnerLabel.isWorker goal runner := by
  refine inevitable_of_measure inv (workersRemaining cost) ?_ ?_ ?_ initial
  · intro state next label holds admitted stepEq
    match label with
    | .worker number choice => exact kept holds stepEq
  · intro state next label _ _ admitted stepEq
    match label with
    | .worker number choice => exact .inr (workersRemaining_lt bounded stepEq).1
  · intro state holds missing
    obtain ⟨number, choice, next, stepEq⟩ := moves holds missing
    exact ⟨.worker number choice, next, trivial, stepEq⟩

theorem Exclusive.returns (exclusive : Exclusive runner)
    (bounded : load.Bounded cost handleCost) :
    Inevitable (Runner.step load) RunnerLabel.goesOn
      (fun runner : Runner S J H R N => runner.loop.inCall = false) runner := by
  refine inevitable_of_measure Exclusive (stepsRemaining load cost handleCost)
    (fun exclusive _ stepEq => exclusive.step stepEq) ?_ ?_ exclusive
  · intro state next label exclusive busy goes stepEq
    rw [Bool.not_eq_false] at busy
    match label with
    | .worker number choice =>
        obtain ⟨fewer, same⟩ := workersRemaining_lt bounded stepEq
        refine .inr ?_
        rw [stepsRemaining, stepsRemaining, same]
        exact Nat.add_lt_add_right fewer _
    | .loop .proceed =>
        rcases remaining_proceed bounded stepEq busy with returned | ⟨workers, fewer⟩
        · exact .inl returned
        · refine .inr ?_
          rw [stepsRemaining, stepsRemaining, workersRemaining, workers]
          exact Nat.add_lt_add_left fewer _
  · intro state exclusive busy
    rw [Bool.not_eq_false] at busy
    exact exclusive.call_enabled bounded busy

/-- The job of worker `number` has not published, and its channel is open; or its
outcome is in the channel. -/
structure Publishing (number : Nat) (runner : Runner S J H R N) : Prop where
  exclusive : Exclusive runner
  latest : number + 1 = runner.workers.length
  calm : runner.loop.starting = false
  released : runner.loop.holdsGuard = false
  owns : runner.rx = some number
  outcome : (runner.queue = [] ∧ ∃ worker, runner.workers[number]? = some worker ∧
      worker.stage ≠ .done) ∨
    ∃ outcome worker, runner.queue = [(number, outcome)] ∧
      runner.workers[number]? = some worker ∧ worker.stage = .done

theorem Publishing.workerStep {number acting : Nat} {choice : C}
    (publishing : Publishing number runner)
    (stepEq : Runner.step load runner (.worker acting choice) = some next) :
    Publishing number next := by
  have exclusive := publishing.exclusive.step stepEq
  simp only [Runner.step] at stepEq
  split at stepEq
  · contradiction
  · rename_i worker found
    have inside := (List.getElem?_eq_some_iff.mp found).1
    obtain ⟨stage, _, acted⟩ := acted_workerStep stepEq
    refine ⟨exclusive, by rw [acted.workers, List.length_set, publishing.latest],
      by rw [acted.loop, publishing.calm], by rw [acted.loop, publishing.released],
      by rw [acted.rx, publishing.owns], ?_⟩
    by_cases same : acting = number
    · subst same
      have here : next.workers[acting]? = some { worker with stage := stage } := by
        rw [acted.workers, List.getElem?_set_self inside]
      rcases publishing.outcome with ⟨empty, other, foundOther, unfinished⟩ |
        ⟨_, other, _, foundOther, done⟩
      · rcases acted.sent with ⟨unfinished, queue⟩ | ⟨outcome, _, done, _, queue⟩
        · exact .inl ⟨by rw [queue, empty], _, here, unfinished⟩
        · refine .inr ⟨outcome, _, ?_, here, done⟩
          rw [queue, if_pos publishing.owns, empty]
          rfl
      · -- A worker that is done takes no step.
        have this : other = worker := Option.some.inj (foundOther.symm.trans found)
        rw [this] at done
        simp [Runner.workerStep, done] at stepEq
    · have kept : next.queue = runner.queue := by
        rcases acted.sent with ⟨_, queue⟩ | ⟨outcome, _, _, _, queue⟩
        · exact queue
        · rw [queue, if_neg]
          rw [publishing.owns]
          intro owned
          exact same (Option.some.inj owned).symm
      have lookup : next.workers[number]? = runner.workers[number]? := by
        rw [acted.workers, List.getElem?_set_ne same]
      rw [kept, lookup]
      exact publishing.outcome

/-- The outcome of a job in flight reaches its channel whatever the workers'
schedule is. -/
theorem Publishing.inevitable {number : Nat} (publishing : Publishing number runner)
    (bounded : load.Bounded cost handleCost) :
    Inevitable (Runner.step load) RunnerLabel.isWorker
      (fun finish : Runner S J H R N => finish.inFlight = false ∧
        ∃ outcome, finish.queue = [(number, outcome)]) runner := by
  have arrives {state : Runner S J H R N} (publishing : Publishing number state)
      (present : state.queue ≠ []) :
      state.inFlight = false ∧ ∃ outcome, state.queue = [(number, outcome)] := by
    refine ⟨publishing.exclusive.idle_of_queue publishing.calm present, ?_⟩
    rcases publishing.outcome with ⟨empty, _⟩ | ⟨outcome, _, queue, _⟩
    · exact absurd empty present
    · exact ⟨outcome, queue⟩
  refine inevitable_of_workers bounded (Publishing number) ?_ ?_ publishing
  · intro state next acting choice publishing stepEq
    exact publishing.workerStep stepEq
  · intro state publishing missing
    have empty : state.queue = [] := by
      by_contra present
      exact missing (arrives publishing present)
    rcases publishing.outcome with ⟨_, worker, found, unfinished⟩ | ⟨_, _, queue, _⟩
    · exact publishing.exclusive.worker_enabled bounded publishing.released found unfinished
    · rw [empty] at queue
      contradiction

/-- The receiver and the backend as they stand until the backend is recovered. -/
structure Serving (runner : Runner S J H R N) : Prop where
  exclusive : Exclusive runner
  channeled : Channeled runner

theorem Serving.step {label : RunnerLabel J C} (serving : Serving runner)
    (stays : label ≠ .loop .intoBackend) (stepEq : Runner.step load runner label = some next) :
    Serving next := by
  refine ⟨serving.exclusive.step stepEq, ?_⟩
  cases label with
  | worker number choice =>
      simp only [Runner.step] at stepEq
      split at stepEq
      · contradiction
      · rename_i worker found
        obtain ⟨stage, events, acted⟩ := acted_workerStep stepEq
        apply serving.channeled.acted found _ acted
        intro done
        simp [Runner.workerStep, done] at stepEq
  | loop action =>
      apply serving.channeled.turned _ (turned_loopStep stepEq)
      rintro rfl
      exact stays rfl

theorem serving_of_run {shared : S} {labels : List (RunnerLabel J C)}
    (run : Run (Runner.step load) (fun _ label => label ≠ .loop .intoBackend) (new shared) labels
      runner) : Serving runner :=
  run.invariant ⟨exclusive_new shared, channeled_new shared⟩ fun serving stays stepEq =>
    serving.step stays stepEq

theorem Serving.neverHangs (serving : Serving runner) (bounded : load.Bounded cost handleCost) :
    NeverHangs load runner := by
  refine ⟨serving.exclusive.returns bounded, ?_⟩
  intro calm released flying
  rcases serving.exclusive.raised flying with starting | ⟨number, worker, found, airborne⟩
  · rw [calm] at starting
    contradiction
  · obtain ⟨latest, _, owns, empty⟩ := serving.channeled.owns serving.exclusive found airborne
    have unfinished : worker.stage ≠ .done := by
      intro done
      rw [done] at airborne
      contradiction
    have publishing : Publishing number runner :=
      ⟨serving.exclusive, latest, calm, released, owns, .inl ⟨empty, worker, found, unfinished⟩⟩
    refine (publishing.inevitable bounded).mono ?_
    rintro finish ⟨idle, outcome, queue⟩
    exact ⟨idle, number, outcome, latest, queue⟩

end Runner

end TtdGdbserver.Gdb
