import TtdGdbserver.Gdb.Runner.Core

/-!
# An idle runner is free

Once the event loop reads `replay_running` as false, no worker holds the
backend mutex and none holds a reference to the backend.
-/

namespace TtdGdbserver.Gdb.Runner

open TtdGdbserver.Transition

variable {S J H R N C : Type} {load : Workload S J H R N C}
variable {runner next : Runner S J H R N}

/-! ## What a worker's step changes -/

/-- The effect of a worker's step on what decides who may use the backend. -/
structure Moved (runner next : Runner S J H R N) (number : Nat) (worker : Worker J R)
    (stage : WorkerStage J R) : Prop where
  workers : next.workers = runner.workers.set number { worker with stage := stage }
  loop : next.loop = runner.loop
  rx : next.rx = runner.rx
  /-- No worker takes off again. -/
  landing : stage.inFlight = true → worker.stage.inFlight = true
  /-- The flag goes down when the worker leaves its flight. -/
  running : next.replayRunning = (runner.replayRunning &&
    (stage.inFlight || !worker.stage.inFlight))
  /-- The mutex is taken only when it is free. -/
  taken : stage.holdsGuard = true → worker.stage.holdsGuard = false →
    runner.backendOwner = none
  owner : next.backendOwner =
    if stage.holdsGuard then some (.worker number)
    else if worker.stage.holdsGuard then none else runner.backendOwner
  counted : next.strongCount = runner.strongCount -
    (if worker.stage.holdsBackend && !stage.holdsBackend then 1 else 0)
  kept : stage.holdsBackend = true → worker.stage.holdsBackend = true
  /-- Only the last step of a worker sends, and it sends to its own channel. -/
  sent : next.queue = runner.queue ∨ runner.rx = some number ∧ stage = .done

section Stages

attribute [local simp] WorkerStage.holdsGuard WorkerStage.holdsBackend WorkerStage.inFlight

theorem holdsBackend_of_holdsGuard {stage : WorkerStage J R} (holds : stage.holdsGuard = true) :
    stage.holdsBackend = true := by
  cases stage <;> simp_all

theorem inFlight_of_holdsBackend {stage : WorkerStage J R} (holds : stage.holdsBackend = true) :
    stage.inFlight = true := by
  cases stage <;> simp_all

end Stages

/-- A step that keeps the backend mutex moves the worker alone. -/
theorem moved_of_holdsGuard {number : Nat} {worker : Worker J R} {stage : WorkerStage J R}
    (before : worker.stage.holdsGuard = true) (after : stage.holdsGuard = true)
    (held : runner.backendOwner = some (.worker number))
    (workers : next.workers = runner.workers.set number { worker with stage := stage })
    (loop : next.loop = runner.loop) (rx : next.rx = runner.rx)
    (running : next.replayRunning = runner.replayRunning)
    (owner : next.backendOwner = runner.backendOwner)
    (count : next.strongCount = runner.strongCount) (queue : next.queue = runner.queue) :
    Moved runner next number worker stage := by
  have references := holdsBackend_of_holdsGuard before
  have flying := inFlight_of_holdsBackend references
  have referencesStill := holdsBackend_of_holdsGuard after
  have flyingStill := inFlight_of_holdsBackend referencesStill
  constructor <;> simp [before, after, held, references, flying, referencesStill, flyingStill,
    workers, loop, rx, running, owner, count, queue]

theorem holdsGuard_insideClosure (which : Closure) (closure : J) :
    (insideClosure which closure : WorkerStage J R).holdsGuard = true := by
  cases which <;> rfl

theorem holdsGuard_afterClosure (which : Closure) (ending : Ending R) :
    (afterClosure which ending : WorkerStage J R).holdsGuard = true := by
  cases which <;> cases ending <;> rfl

section Steps

attribute [local simp] WorkerStage.holdsGuard WorkerStage.holdsBackend WorkerStage.inFlight

/-- Every step of a worker moves that worker to one stage. -/
theorem moved_workerStep {number : Nat} {worker : Worker J R} {choice : C}
    (held : worker.stage.holdsGuard = true → runner.backendOwner = some (.worker number))
    (stepEq : runner.workerStep load number worker choice = some next) :
    ∃ stage, Moved runner next number worker stage := by
  have turn : WorkerTurn load runner next number worker choice := workerTurn_workerStep stepEq
  cases turn with
  | locked job at_ free next_eq =>
      subst next_eq
      refine ⟨.job job, ?_⟩
      constructor <;> simp [at_, free]
  | goesOn which closure following shared notes at_ ran next_eq =>
      subst next_eq
      have before : worker.stage.holdsGuard = true := at_ ▸ holdsGuard_insideClosure which closure
      have after := holdsGuard_insideClosure (R := R) which following
      exact ⟨_, moved_of_holdsGuard before after (held before) rfl rfl rfl rfl rfl rfl rfl⟩
  | ended which closure ending shared notes at_ ran next_eq =>
      subst next_eq
      have before : worker.stage.holdsGuard = true := at_ ▸ holdsGuard_insideClosure which closure
      have after := holdsGuard_afterClosure (J := J) which ending
      exact ⟨_, moved_of_holdsGuard before after (held before) rfl rfl rfl rfl rfl rfl rfl⟩
  | swapped result at_ next_eq =>
      subst next_eq
      refine ⟨if runner.interrupted then .onInterrupt worker.onInterrupt
        else .unlocking (.ok result), ?_⟩
      have owned := held (by rw [at_]; rfl)
      cases runner.interrupted <;> constructor <;> simp [at_, owned]
  | unlocked outcome at_ next_eq =>
      subst next_eq
      refine ⟨.dropping outcome, ?_⟩
      constructor <;> simp [at_]
  | dropped outcome at_ next_eq =>
      subst next_eq
      refine ⟨.clearing outcome, ?_⟩
      constructor <;> simp [at_]
  | cleared outcome at_ next_eq =>
      subst next_eq
      refine ⟨.sending outcome, ?_⟩
      constructor <;> simp [at_]
  | sent outcome at_ next_eq =>
      subst next_eq
      refine ⟨.done, ?_⟩
      by_cases current : runner.rx = some number <;> constructor <;> simp [at_, current]

end Steps

/-! ## The invariant -/

/-- Who may use the backend, between two steps. -/
structure Exclusive (runner : Runner S J H R N) : Prop where
  /-- Only the latest worker is ever in flight. -/
  alone : ∀ (number : Nat) (worker : Worker J R), runner.workers[number]? = some worker →
    worker.stage.inFlight = true →
    number + 1 = runner.workers.length ∧ runner.replayRunning = true ∧
      runner.loop.starting = false
  /-- The flag is up for a start in progress or a worker in flight. -/
  raised : runner.replayRunning = true → runner.loop.starting = true ∨
    ∃ (number : Nat) (worker : Worker J R), runner.workers[number]? = some worker ∧
      worker.stage.inFlight = true
  starting : runner.loop.starting = true → runner.replayRunning = true
  /-- A worker between its lock and its unlock owns the mutex. -/
  workerGuard : ∀ (number : Nat) (worker : Worker J R), runner.workers[number]? = some worker →
    (worker.stage.holdsGuard = true ↔ runner.backendOwner = some (.worker number))
  spawned : ∀ number, runner.backendOwner = some (.worker number) →
    number < runner.workers.length
  /-- So does the event loop. -/
  loopGuard : runner.loop.holdsGuard = true ↔ runner.backendOwner = some .eventLoop
  /-- The strong count is the number of references. -/
  counted : runner.strongCount = 1 +
    runner.workers.countP (fun worker : Worker J R => worker.stage.holdsBackend) +
      (if runner.loop.holdsClone then 1 else 0)
  /-- The receiver belongs to the latest job. -/
  channel : ∀ number, runner.rx = some number →
    number + (if runner.loop.subscribed then 0 else 1) = runner.workers.length
  /-- An outcome in the channel of the latest job comes from its worker. -/
  queued : runner.queue ≠ [] → ∃ (number : Nat) (worker : Worker J R), runner.rx = some number ∧
    runner.workers[number]? = some worker ∧ worker.stage.inFlight = false
  /-- The event loop locks the backend without need to wait only when idle. -/
  locking : ∀ use, runner.loop = .locking use → use ≠ .blocking → runner.replayRunning = false

theorem exclusive_new (shared : S) : Exclusive (new shared : Runner S J H R N) := by
  constructor <;> simp [new, LoopStage.starting, LoopStage.holdsGuard, LoopStage.holdsClone]

/-- No worker is in flight while the flag is down. -/
theorem Exclusive.landed (exclusive : Exclusive runner) (idle : runner.replayRunning = false)
    {number : Nat} {worker : Worker J R} (found : runner.workers[number]? = some worker) :
    worker.stage.inFlight = false := by
  cases flying : worker.stage.inFlight with
  | false => rfl
  | true =>
      have running := (exclusive.alone number worker found flying).2.1
      rw [idle] at running
      contradiction

/-- While one worker is in flight, the others have landed. -/
theorem Exclusive.landed_of_other (exclusive : Exclusive runner) {number other : Nat}
    {worker entry : Worker J R} (different : other ≠ number)
    (found : runner.workers[number]? = some worker)
    (foundOther : runner.workers[other]? = some entry) (flying : entry.stage.inFlight = true) :
    worker.stage.inFlight = false := by
  cases here : worker.stage.inFlight with
  | false => rfl
  | true =>
      have latest := (exclusive.alone number worker found here).1
      have latestOther := (exclusive.alone other entry foundOther flying).1
      omega

/-- While a start is in progress, all have landed. -/
theorem Exclusive.landed_of_starting (exclusive : Exclusive runner)
    (starting : runner.loop.starting = true) {number : Nat} {worker : Worker J R}
    (found : runner.workers[number]? = some worker) : worker.stage.inFlight = false := by
  cases flying : worker.stage.inFlight with
  | false => rfl
  | true =>
      have calm := (exclusive.alone number worker found flying).2.2
      rw [starting] at calm
      contradiction

/-! ## A step of a worker -/

section Moved

variable {number : Nat} {worker : Worker J R} {stage : WorkerStage J R}

theorem Moved.length (moved : Moved runner next number worker stage) :
    next.workers.length = runner.workers.length := by
  rw [moved.workers, List.length_set]

theorem Moved.self (moved : Moved runner next number worker stage)
    (found : runner.workers[number]? = some worker) :
    next.workers[number]? = some { worker with stage := stage } := by
  rw [moved.workers, List.getElem?_set_self (List.getElem?_eq_some_iff.mp found).1]

theorem Moved.others (moved : Moved runner next number worker stage) {other : Nat}
    (different : other ≠ number) : next.workers[other]? = runner.workers[other]? := by
  rw [moved.workers, List.getElem?_set_ne different.symm]

/-- Every worker is the one that moved, or was there before. -/
theorem Moved.lookup (moved : Moved runner next number worker stage)
    (found : runner.workers[number]? = some worker) {other : Nat} {entry : Worker J R}
    (foundEntry : next.workers[other]? = some entry) :
    (other = number ∧ entry = { worker with stage := stage }) ∨
      (other ≠ number ∧ runner.workers[other]? = some entry) := by
  by_cases same : other = number
  · subst other
    rw [moved.self found] at foundEntry
    exact .inl ⟨rfl, (Option.some.inj foundEntry).symm⟩
  · rw [moved.others same] at foundEntry
    exact .inr ⟨same, foundEntry⟩

theorem Exclusive.alone_moved (exclusive : Exclusive runner)
    (found : runner.workers[number]? = some worker)
    (moved : Moved runner next number worker stage) (other : Nat) (entry : Worker J R)
    (foundEntry : next.workers[other]? = some entry) (flying : entry.stage.inFlight = true) :
    other + 1 = next.workers.length ∧ next.replayRunning = true ∧
      next.loop.starting = false := by
  rw [moved.length, moved.running, moved.loop]
  rcases moved.lookup found foundEntry with ⟨rfl, rfl⟩ | ⟨different, foundOther⟩
  · have before := exclusive.alone _ _ found (moved.landing flying)
    exact ⟨before.1, by simp [before.2.1, flying], before.2.2⟩
  · have before := exclusive.alone _ _ foundOther flying
    have landed := exclusive.landed_of_other different found foundOther flying
    exact ⟨before.1, by simp [before.2.1, landed], before.2.2⟩

theorem Exclusive.raised_moved (exclusive : Exclusive runner)
    (found : runner.workers[number]? = some worker)
    (moved : Moved runner next number worker stage) (running : next.replayRunning = true) :
    next.loop.starting = true ∨ ∃ (other : Nat) (entry : Worker J R),
      next.workers[other]? = some entry ∧ entry.stage.inFlight = true := by
  rw [moved.running, Bool.and_eq_true] at running
  rw [moved.loop]
  rcases exclusive.raised running.1 with starting | ⟨other, entry, foundOther, flying⟩
  · exact .inl starting
  · by_cases same : other = number
    · subst other
      obtain rfl : entry = worker := Option.some.inj (foundOther.symm.trans found)
      exact .inr ⟨number, _, moved.self found, by simpa [flying] using running.2⟩
    · exact .inr ⟨other, entry, (moved.others same).trans foundOther, flying⟩

theorem Exclusive.starting_moved (exclusive : Exclusive runner)
    (found : runner.workers[number]? = some worker)
    (moved : Moved runner next number worker stage) (starting : next.loop.starting = true) :
    next.replayRunning = true := by
  rw [moved.loop] at starting
  rw [moved.running, exclusive.starting starting, exclusive.landed_of_starting starting found]
  simp

/-- No one but the worker takes or releases the mutex. -/
theorem Exclusive.owner_moved (exclusive : Exclusive runner)
    (found : runner.workers[number]? = some worker)
    (moved : Moved runner next number worker stage) {owner : Owner}
    (different : owner ≠ .worker number) :
    next.backendOwner = some owner ↔ runner.backendOwner = some owner := by
  have mine := exclusive.workerGuard number worker found
  rw [moved.owner]
  cases now : stage.holdsGuard with
  | true =>
      have unowned : runner.backendOwner ≠ some owner := by
        cases held : worker.stage.holdsGuard with
        | true => simpa [mine.mp held] using different.symm
        | false => simp [moved.taken now held]
      simp [unowned, different.symm]
  | false =>
      cases held : worker.stage.holdsGuard with
      | true => simp [mine.mp held, different.symm]
      | false => simp

theorem Exclusive.workerGuard_moved (exclusive : Exclusive runner)
    (found : runner.workers[number]? = some worker)
    (moved : Moved runner next number worker stage) (other : Nat) (entry : Worker J R)
    (foundEntry : next.workers[other]? = some entry) :
    entry.stage.holdsGuard = true ↔ next.backendOwner = some (.worker other) := by
  rcases moved.lookup found foundEntry with ⟨rfl, rfl⟩ | ⟨different, foundOther⟩
  · have before := exclusive.workerGuard _ _ found
    rw [moved.owner]
    cases now : stage.holdsGuard with
    | true => simp
    | false =>
        cases held : worker.stage.holdsGuard with
        | true => simp
        | false => simpa [held] using before
  · rw [exclusive.workerGuard _ _ foundOther,
      exclusive.owner_moved found moved (by simpa using different)]

theorem Exclusive.spawned_moved (exclusive : Exclusive runner)
    (found : runner.workers[number]? = some worker)
    (moved : Moved runner next number worker stage) (other : Nat)
    (owned : next.backendOwner = some (.worker other)) : other < next.workers.length := by
  rw [moved.length]
  by_cases same : other = number
  · subst other
    exact (List.getElem?_eq_some_iff.mp found).1
  · have ownedBefore := (exclusive.owner_moved found moved (by simpa using same)).mp owned
    exact exclusive.spawned other ownedBefore

theorem Exclusive.loopGuard_moved (exclusive : Exclusive runner)
    (found : runner.workers[number]? = some worker)
    (moved : Moved runner next number worker stage) :
    next.loop.holdsGuard = true ↔ next.backendOwner = some .eventLoop := by
  rw [moved.loop, exclusive.loopGuard, exclusive.owner_moved found moved (by simp)]

theorem Exclusive.counted_moved (exclusive : Exclusive runner)
    (found : runner.workers[number]? = some worker)
    (moved : Moved runner next number worker stage) :
    next.strongCount = 1 +
      next.workers.countP (fun worker : Worker J R => worker.stage.holdsBackend) +
        (if next.loop.holdsClone then 1 else 0) := by
  obtain ⟨inside, position⟩ := List.getElem?_eq_some_iff.mp found
  have members : worker.stage.holdsBackend = true →
      0 < runner.workers.countP fun entry : Worker J R => entry.stage.holdsBackend :=
    fun holds => List.countP_pos_iff.mpr ⟨worker, List.mem_of_getElem? found, holds⟩
  rw [moved.counted, moved.workers, moved.loop, List.countP_set inside, position,
    exclusive.counted]
  cases now : stage.holdsBackend with
  | true =>
      have held := moved.kept now
      have present := members held
      simp only [held]
      simp
      omega
  | false =>
      cases held : worker.stage.holdsBackend with
      | true =>
          have present := members held
          simp
          omega
      | false => simp

theorem Exclusive.queued_moved (exclusive : Exclusive runner)
    (found : runner.workers[number]? = some worker)
    (moved : Moved runner next number worker stage) (present : next.queue ≠ []) :
    ∃ (other : Nat) (entry : Worker J R), next.rx = some other ∧
      next.workers[other]? = some entry ∧ entry.stage.inFlight = false := by
  rw [moved.rx]
  rcases moved.sent with same | ⟨current, rfl⟩
  · rw [same] at present
    obtain ⟨other, entry, current, foundOther, landed⟩ := exclusive.queued present
    by_cases own : other = number
    · subst other
      obtain rfl : entry = worker := Option.some.inj (foundOther.symm.trans found)
      refine ⟨number, _, current, moved.self found, ?_⟩
      cases flying : stage.inFlight with
      | false => rfl
      | true => exact absurd (moved.landing flying) (by simp [landed])
    · exact ⟨other, entry, current, (moved.others own).trans foundOther, landed⟩
  · exact ⟨number, _, current, moved.self found, rfl⟩

/-- A step of a worker keeps the invariant. -/
theorem Exclusive.moved (exclusive : Exclusive runner)
    (found : runner.workers[number]? = some worker)
    (moved : Moved runner next number worker stage) : Exclusive next where
  alone := exclusive.alone_moved found moved
  raised := exclusive.raised_moved found moved
  starting := exclusive.starting_moved found moved
  workerGuard := exclusive.workerGuard_moved found moved
  spawned := exclusive.spawned_moved found moved
  loopGuard := exclusive.loopGuard_moved found moved
  counted := exclusive.counted_moved found moved
  channel := by
    rw [moved.rx, moved.length, moved.loop]
    exact exclusive.channel
  queued := exclusive.queued_moved found moved
  locking := by
    intro use locking direct
    rw [moved.loop] at locking
    rw [moved.running, exclusive.locking use locking direct]
    rfl

end Moved

/-! ## A step of the event loop -/

/-- A step of the event loop that leaves alone what the invariant is about. -/
structure Steered (runner next : Runner S J H R N) : Prop where
  workers : next.workers = runner.workers
  running : next.replayRunning = runner.replayRunning
  owner : next.backendOwner = runner.backendOwner
  count : next.strongCount = runner.strongCount
  rx : next.rx = runner.rx
  queue : next.queue ≠ [] → runner.queue ≠ []
  starting : next.loop.starting = runner.loop.starting
  guarded : next.loop.holdsGuard = runner.loop.holdsGuard
  cloned : next.loop.holdsClone = runner.loop.holdsClone
  receiver : next.loop.subscribed = runner.loop.subscribed
  locking : ∀ use, next.loop = .locking use → use ≠ .blocking → runner.replayRunning = false

/-- A step of the event loop that leaves the workers, the flag and the mutex
alone, and accounts for the references and the channel. -/
theorem Exclusive.relinked (exclusive : Exclusive runner) (workers : next.workers = runner.workers)
    (running : next.replayRunning = runner.replayRunning)
    (owner : next.backendOwner = runner.backendOwner)
    (starting : next.loop.starting = runner.loop.starting)
    (guarded : next.loop.holdsGuard = runner.loop.holdsGuard)
    (counted : next.strongCount + (if runner.loop.holdsClone then 1 else 0) =
      runner.strongCount + (if next.loop.holdsClone then 1 else 0))
    (channel : ∀ number, next.rx = some number →
      number + (if next.loop.subscribed then 0 else 1) = runner.workers.length)
    (queued : next.queue ≠ [] → next.rx = runner.rx ∧ runner.queue ≠ [])
    (locking : ∀ use, next.loop = .locking use → use ≠ .blocking →
      runner.replayRunning = false) : Exclusive next := by
  constructor
  · rw [workers, running, starting]
    exact exclusive.alone
  · rw [workers, running, starting]
    exact exclusive.raised
  · rw [running, starting]
    exact exclusive.starting
  · rw [workers, owner]
    exact exclusive.workerGuard
  · rw [workers, owner]
    exact exclusive.spawned
  · rw [guarded, owner]
    exact exclusive.loopGuard
  · have before := exclusive.counted
    rw [workers]
    omega
  · rw [workers]
    exact channel
  · intro present
    obtain ⟨same, waiting⟩ := queued present
    rw [same, workers]
    exact exclusive.queued waiting
  · rw [running]
    exact locking

theorem Exclusive.steered (exclusive : Exclusive runner) (steered : Steered runner next) :
    Exclusive next := by
  apply exclusive.relinked steered.workers steered.running steered.owner steered.starting
    steered.guarded
  · rw [steered.count, steered.cloned]
  · rw [steered.rx, steered.receiver]
    exact exclusive.channel
  · exact fun present => ⟨steered.rx, steered.queue present⟩
  · exact steered.locking

section Flags

attribute [local simp] LoopStage.starting LoopStage.holdsGuard LoopStage.holdsClone
  LoopStage.subscribed Requester.resumeAt Requester.afterFire

theorem steered_requestInterrupt {requester : Requester} (calm : runner.loop.starting = false)
    (open_ : runner.loop.holdsGuard = false) (single : runner.loop.holdsClone = false)
    (old : runner.loop.subscribed = false) :
    Steered runner (runner.requestInterrupt requester) := by
  unfold requestInterrupt
  constructor <;> simp only [goTo_workers, goTo_replayRunning, goTo_backendOwner,
    goTo_strongCount, goTo_rx, goTo_queue, goTo_loop, imp_self, calm, open_, single, old]
  all_goals
    cases runner.replayRunning <;> cases requester <;> simp

theorem subscribed_of_calm {stage : LoopStage J H} (calm : stage.starting = false) :
    stage.subscribed = false ∧ stage.holdsClone = false := by
  cases stage <;> simp_all

/-- An outcome waits for the event loop only when nothing is in flight. -/
theorem Exclusive.idle_of_queue (exclusive : Exclusive runner)
    (calm : runner.loop.starting = false) (present : runner.queue ≠ []) :
    runner.replayRunning = false := by
  cases running : runner.replayRunning with
  | false => rfl
  | true =>
      rcases exclusive.raised running with starting | ⟨number, worker, found, flying⟩
      · rw [calm] at starting
        contradiction
      · obtain ⟨current, sender, rx, foundSender, landed⟩ := exclusive.queued present
        have latest := (exclusive.alone number worker found flying).1
        have owns := exclusive.channel current rx
        rw [(subscribed_of_calm calm).1] at owns
        have same : current = number := by
          simp only [Bool.false_eq_true, if_false] at owns
          omega
        subst same
        rw [found] at foundSender
        cases foundSender
        rw [flying] at landed
        contradiction

/-- Receiving an outcome keeps the invariant. -/
theorem Exclusive.receive (exclusive : Exclusive runner) (calm : runner.loop.starting = false)
    (released : runner.loop.holdsGuard = false) (received : runner.receive = some next) :
    Exclusive next := by
  unfold Runner.receive at received
  split at received
  · contradiction
  · rename_i number outcome rest queueEq
    cases received
    have idle := exclusive.idle_of_queue calm (by simp [queueEq])
    have single := subscribed_of_calm calm
    apply exclusive.steered
    constructor <;> simp only [record_workers, record_replayRunning, record_backendOwner,
      record_strongCount, record_rx, record_queue, record_loop, goTo_workers, goTo_replayRunning,
      goTo_backendOwner, goTo_strongCount, goTo_rx, goTo_queue, goTo_loop]
    · simp [queueEq]
    · rw [calm]
      cases outcome <;> rfl
    · rw [released]
      cases outcome <;> rfl
    · rw [single.2]
      cases outcome <;> rfl
    · rw [single.1]
      cases outcome <;> rfl
    · intro _ _ _
      exact idle

/-- The event loop takes the free mutex. -/
theorem Exclusive.lock {stage : LoopStage J H} (exclusive : Exclusive runner)
    (free : runner.backendOwner = none) (starting : stage.starting = runner.loop.starting)
    (holds : stage.holdsGuard = true) (clone : stage.holdsClone = runner.loop.holdsClone)
    (receiver : stage.subscribed = runner.loop.subscribed) :
    Exclusive ({ runner with backendOwner := some .eventLoop }.goTo stage) := by
  constructor <;> simp only [goTo_workers, goTo_replayRunning, goTo_backendOwner,
    goTo_strongCount, goTo_rx, goTo_queue, goTo_loop, starting, holds, clone, receiver]
  · exact exclusive.alone
  · exact exclusive.raised
  · exact exclusive.starting
  · intro number worker found
    rw [exclusive.workerGuard number worker found, free]
    simp
  · simp
  · exact exclusive.counted
  · exact exclusive.channel
  · exact exclusive.queued
  · intro use locking
    rw [locking] at holds
    contradiction

/-- The event loop releases the mutex. -/
theorem Exclusive.unlock {stage : LoopStage J H} (exclusive : Exclusive runner)
    (held : runner.loop.holdsGuard = true) (starting : stage.starting = runner.loop.starting)
    (released : stage.holdsGuard = false) (clone : stage.holdsClone = runner.loop.holdsClone)
    (receiver : stage.subscribed = runner.loop.subscribed)
    (elsewhere : ∀ use, stage ≠ .locking use) :
    Exclusive ({ runner with backendOwner := none }.goTo stage) := by
  constructor <;> simp only [goTo_workers, goTo_replayRunning, goTo_backendOwner,
    goTo_strongCount, goTo_rx, goTo_queue, goTo_loop, starting, released, clone, receiver]
  · exact exclusive.alone
  · exact exclusive.raised
  · exact exclusive.starting
  · intro number worker found
    rw [exclusive.workerGuard number worker found, exclusive.loopGuard.mp held]
    simp
  · simp
  · simp
  · exact exclusive.counted
  · exact exclusive.channel
  · exact exclusive.queued
  · intro use locking
    exact absurd locking (elsewhere use)

/-- Spawning the worker keeps the invariant. -/
theorem Exclusive.spawn {job onInterrupt : J} (exclusive : Exclusive runner)
    (at_ : runner.loop = .spawning job onInterrupt) :
    Exclusive ({ runner with
      workers := runner.workers ++ [Worker.mk onInterrupt (.locking job)] }.goTo .ready) := by
  have starting : runner.loop.starting = true := by rw [at_]; rfl
  have running := exclusive.starting starting
  have lookup : ∀ (number : Nat) (worker : Worker J R),
      (runner.workers ++ [Worker.mk onInterrupt (.locking job)])[number]? = some worker →
      runner.workers[number]? = some worker ∨
        (number = runner.workers.length ∧ worker = Worker.mk onInterrupt (.locking job)) := by
    intro number worker found
    rw [List.getElem?_append] at found
    split at found
    · exact Or.inl found
    · rw [List.getElem?_singleton] at found
      split at found
      · right
        refine ⟨by omega, (Option.some.inj found).symm⟩
      · contradiction
  have last : (runner.workers ++ [Worker.mk onInterrupt (.locking job)])[runner.workers.length]? =
      some (Worker.mk onInterrupt (.locking job)) := by simp
  have unowned : runner.backendOwner ≠ some (.worker runner.workers.length) := by
    intro owned
    exact absurd (exclusive.spawned _ owned) (Nat.lt_irrefl _)
  constructor <;> simp only [goTo_workers, goTo_replayRunning, goTo_backendOwner,
    goTo_strongCount, goTo_rx, goTo_queue, goTo_loop]
  · intro number worker found flying
    rcases lookup number worker found with old | ⟨rfl, rfl⟩
    · rw [exclusive.landed_of_starting starting old] at flying
      contradiction
    · simp [running]
  · intro _
    right
    exact ⟨_, _, last, rfl⟩
  · simp
  · intro number worker found
    rcases lookup number worker found with old | ⟨rfl, rfl⟩
    · exact exclusive.workerGuard number worker old
    · simp [unowned, WorkerStage.holdsGuard]
  · intro number owned
    have inside := exclusive.spawned number owned
    rw [List.length_append]
    omega
  · simpa [at_] using exclusive.loopGuard
  · have reference : (WorkerStage.locking job : WorkerStage J R).holdsBackend = true := rfl
    rw [exclusive.counted]
    simp [at_, List.countP_append, reference]
    omega
  · intro number current
    have owns := exclusive.channel number current
    simpa [at_] using owns
  · intro present
    obtain ⟨number, worker, current, found, _⟩ := exclusive.queued present
    have owns := exclusive.channel number current
    have inside := (List.getElem?_eq_some_iff.mp found).1
    simp only [at_, LoopStage.subscribed, if_true, Nat.add_zero] at owns
    omega
  · simp

/-- Accepting a job keeps the invariant. -/
theorem Exclusive.accepted {job onInterrupt : J} (exclusive : Exclusive runner)
    (at_ : runner.loop = .ready) (idle : runner.replayRunning = false) :
    Exclusive (({ runner with replayRunning := true }.goTo
      (.resetting job onInterrupt)).record [.accepted runner.workers.length]) := by
  constructor <;> simp only [record_workers, record_replayRunning, record_backendOwner,
    record_strongCount, record_rx, record_queue, record_loop, goTo_workers,
    goTo_replayRunning, goTo_backendOwner, goTo_strongCount, goTo_rx, goTo_queue, goTo_loop]
  · intro number worker found flying
    rw [exclusive.landed idle found] at flying
    contradiction
  · simp
  · simp
  · exact exclusive.workerGuard
  · exact exclusive.spawned
  · simpa [at_] using exclusive.loopGuard
  · simpa [at_] using exclusive.counted
  · simpa [at_] using exclusive.channel
  · exact exclusive.queued
  · simp

/-- Swapping in the receiver of a new channel keeps the invariant: the channel is
empty, and its sender is yet to come. -/
theorem Exclusive.swapped {job onInterrupt : J} (exclusive : Exclusive runner)
    (at_ : runner.loop = .swappingReceiver job onInterrupt) :
    Exclusive ({ runner with rx := some runner.workers.length, queue := [] }.goTo
      (.cloning job onInterrupt)) := by
  apply exclusive.relinked <;> simp [at_]

/-- Cloning the backend handle keeps the invariant. -/
theorem Exclusive.cloned {job onInterrupt : J} (exclusive : Exclusive runner)
    (at_ : runner.loop = .cloning job onInterrupt) :
    Exclusive ({ runner with strongCount := runner.strongCount + 1 }.goTo
      (.spawning job onInterrupt)) := by
  have owns : ∀ number, runner.rx = some number → number = runner.workers.length := by
    simpa [at_] using exclusive.channel
  apply exclusive.relinked <;> simp [at_]
  exact owns

/-- So does dropping the receiver at the end of the session. -/
theorem Exclusive.closed (exclusive : Exclusive runner) (at_ : runner.loop = .unwrapping) :
    Exclusive ({ runner with rx := none, queue := [] }.goTo
      (.finished (runner.strongCount == 1))) := by
  apply exclusive.relinked <;> simp [at_]

/-- A step of the event loop keeps the invariant. -/
theorem Exclusive.loopStep {action : LoopAction J C} (exclusive : Exclusive runner)
    (stepEq : runner.loopStep load action = some next) : Exclusive next := by
  cases loopTurn_loopStep stepEq with
  | accepted job onInterrupt at_ idle next_eq =>
      subst next_eq
      exact exclusive.accepted at_ idle
  | lockedResume job onInterrupt at_ free next_eq =>
      subst next_eq
      apply exclusive.lock free <;> simp [at_]
  | released job onInterrupt at_ next_eq =>
      subst next_eq
      apply exclusive.unlock <;> simp [at_]
  | swapped job onInterrupt at_ next_eq =>
      subst next_eq
      exact exclusive.swapped at_
  | cloned job onInterrupt at_ next_eq =>
      subst next_eq
      exact exclusive.cloned at_
  | spawned job onInterrupt at_ next_eq =>
      subst next_eq
      exact exclusive.spawn at_
  | received at_ received =>
      rcases at_ with at_ | at_
      all_goals exact exclusive.receive (by simp [at_]) (by simp [at_]) received
  | nothing at_ empty next_eq =>
      subst next_eq
      exact exclusive
  | locked use at_ free next_eq =>
      subst next_eq
      apply exclusive.lock free <;> simp [at_]
  | unlocked use at_ next_eq =>
      subst next_eq
      apply exclusive.unlock <;> simp [at_]
  | closed at_ next_eq =>
      subst next_eq
      exact exclusive.closed at_
  -- The other steps touch nothing that the invariant is about.
  | asked at_ next_eq | requested requester at_ next_eq =>
      subst next_eq
      apply exclusive.steered
      apply steered_requestInterrupt <;> simp [at_]
  | stored requester at_ next_eq =>
      subst next_eq
      apply exclusive.steered
      cases load.handle <;> cases requester <;> constructor <;> simp [at_]
  | fired handle requester rest shared notes at_ fire next_eq =>
      subst next_eq
      apply exclusive.steered
      cases rest <;> cases requester <;> constructor <;> simp [at_]
  | noStop at_ next_eq =>
      subst next_eq
      apply exclusive.steered
      rcases at_ with at_ | at_ <;> constructor <;> simp [at_]
  | triedLock at_ next_eq =>
      subst next_eq
      apply exclusive.steered
      cases idle : runner.replayRunning <;> constructor <;> simp [at_, idle]
  | leaving at_ next_eq | polled at_ next_eq =>
      subst next_eq
      apply exclusive.steered
      split <;> constructor <;> simp [at_]
  | refused _ _ at_ _ next_eq | reset _ _ at_ next_eq | resumed _ _ at_ next_eq
  | interrupting at_ next_eq | waits at_ _ next_eq | wantsLock at_ next_eq
  | served _ _ at_ next_eq | accessed _ at_ next_eq | gaveUp at_ next_eq =>
      subst next_eq
      apply exclusive.steered
      constructor <;> simp [at_]

end Flags

/-- Every step keeps the invariant. -/
theorem Exclusive.step {label : RunnerLabel J C} (exclusive : Exclusive runner)
    (stepEq : Runner.step load runner label = some next) : Exclusive next := by
  cases label with
  | worker number choice =>
      simp only [Runner.step] at stepEq
      split at stepEq
      · contradiction
      · rename_i worker found
        have held := (exclusive.workerGuard number worker found).mp
        obtain ⟨stage, moved⟩ := moved_workerStep held stepEq
        exact exclusive.moved found moved
  | loop action => exact exclusive.loopStep stepEq

theorem exclusive_of_run {guard : Runner S J H R N → RunnerLabel J C → Prop} {shared : S}
    {labels : List (RunnerLabel J C)}
    (run : Run (Runner.step load) guard (new shared) labels runner) : Exclusive runner :=
  run.invariant (exclusive_new shared) fun exclusive _ stepEq => exclusive.step stepEq

/-! ## Idle means free -/

/-- `into_backend` has returned the backend, or its next step does. -/
def Recovering (load : Workload S J H R N C) (runner : Runner S J H R N) : Prop :=
  runner.loop = .finished true ∨ runner.loop = .unwrapping ∧
    ∃ next, runner.loopStep load .proceed = some next ∧ next.loop = .finished true

/-- What the event loop may rely on once it sees that nothing is in flight. -/
structure FreeWhenIdle (load : Workload S J H R N C) (runner : Runner S J H R N) : Prop where
  /-- No worker holds the mutex. -/
  unlocked : runner.inFlight = false → ∀ number, runner.backendOwner ≠ some (.worker number)
  /-- No worker holds a reference to the backend. -/
  unreferenced : runner.inFlight = false → runner.strongCount = 1 ∧
    ∀ worker ∈ runner.workers, worker.stage.holdsBackend = false
  /-- After its check `try_lock` does not wait, and neither does the mapping of
  a panic. -/
  tryLock : ∀ use, runner.loop = .locking use → use ≠ .blocking →
    (runner.loopStep load .proceed).isSome
  /-- `begin_resume` does not wait. -/
  beginResume : ∀ job onInterrupt, runner.loop = .lockingResume job onInterrupt →
    (runner.loopStep load .proceed).isSome
  /-- `into_backend` recovers the backend whatever the workers do meanwhile. -/
  intoBackend : runner.loop = .ready → runner.inFlight = false →
    ∃ called, runner.loopStep load .intoBackend = some called ∧
      ∀ labels later, Run (Runner.step load) AnyStep called labels later →
        Recovering load later

/-- No worker uses the backend while the flag is down. -/
theorem Exclusive.unowned (exclusive : Exclusive runner) (idle : runner.replayRunning = false)
    (number : Nat) : runner.backendOwner ≠ some (.worker number) := by
  intro owned
  have inside := exclusive.spawned number owned
  have found := List.getElem?_eq_getElem inside
  have holds := (exclusive.workerGuard number _ found).mpr owned
  have flying := inFlight_of_holdsBackend (holdsBackend_of_holdsGuard holds)
  rw [exclusive.landed idle found] at flying
  contradiction

theorem Exclusive.unreferenced (exclusive : Exclusive runner)
    (idle : runner.replayRunning = false) :
    ∀ worker ∈ runner.workers, worker.stage.holdsBackend = false := by
  intro worker present
  obtain ⟨number, inside, rfl⟩ := List.mem_iff_getElem.mp present
  cases holds : runner.workers[number].stage.holdsBackend with
  | false => rfl
  | true =>
      have landed := exclusive.landed idle (List.getElem?_eq_getElem inside)
      rw [inFlight_of_holdsBackend holds] at landed
      contradiction

theorem Exclusive.strongCount (exclusive : Exclusive runner)
    (idle : runner.replayRunning = false) : runner.strongCount = 1 := by
  have none_ :
      runner.workers.countP (fun worker : Worker J R => worker.stage.holdsBackend) = 0 := by
    apply List.countP_eq_zero.mpr
    intro worker present
    simp [exclusive.unreferenced idle worker present]
  have calm : runner.loop.starting = false := by
    cases starting : runner.loop.starting with
    | false => rfl
    | true =>
        have running := exclusive.starting starting
        rw [idle] at running
        contradiction
  rw [exclusive.counted, none_, (subscribed_of_calm calm).2]
  simp

/-- The mutex is free when the flag is down and the event loop does not hold
it. -/
theorem Exclusive.free (exclusive : Exclusive runner)
    (released : runner.loop.holdsGuard = false)
    (absent : ∀ number, runner.backendOwner ≠ some (.worker number)) :
    runner.backendOwner = none := by
  cases owner : runner.backendOwner with
  | none => rfl
  | some holder =>
      cases holder with
      | eventLoop =>
          have holds := exclusive.loopGuard.mpr owner
          rw [released] at holds
          contradiction
      | worker number => exact absurd owner (absent number)

/-- A start in progress finds no worker at the backend. -/
theorem Exclusive.unowned_of_starting (exclusive : Exclusive runner)
    (starting : runner.loop.starting = true) (number : Nat) :
    runner.backendOwner ≠ some (.worker number) := by
  intro owned
  have inside := exclusive.spawned number owned
  have found := List.getElem?_eq_getElem inside
  have holds := (exclusive.workerGuard number _ found).mpr owned
  have flying := inFlight_of_holdsBackend (holdsBackend_of_holdsGuard holds)
  have calm := (exclusive.alone number _ found flying).2.2
  rw [starting] at calm
  contradiction

/-- A call of `into_backend` on an idle runner, until it returns. -/
structure Leaving (runner : Runner S J H R N) : Prop where
  exclusive : Exclusive runner
  idle : runner.replayRunning = false
  stage : runner.loop = .unwrapping ∨ runner.loop = .finished true

theorem Leaving.step {label : RunnerLabel J C} (leaving : Leaving runner)
    (stepEq : Runner.step load runner label = some next) : Leaving next := by
  have exclusive := leaving.exclusive.step stepEq
  cases label with
  | worker number choice =>
      simp only [Runner.step] at stepEq
      split at stepEq
      · contradiction
      · rename_i worker found
        have held := (leaving.exclusive.workerGuard number worker found).mp
        obtain ⟨stage, moved⟩ := moved_workerStep held stepEq
        refine ⟨exclusive, ?_, ?_⟩
        · rw [moved.running, leaving.idle]
          rfl
        · rw [moved.loop]
          exact leaving.stage
  | loop action =>
      have single := leaving.exclusive.strongCount leaving.idle
      rcases leaving.stage with at_ | at_
      · cases action <;> simp [Runner.step, Runner.loopStep, at_] at stepEq
        refine ⟨exclusive, ?_, Or.inr ?_⟩
        · rw [← stepEq]
          exact leaving.idle
        · rw [← stepEq]
          simp [single]
      · simp [Runner.step, Runner.loopStep, at_] at stepEq

theorem Leaving.recovering (leaving : Leaving runner) : Recovering load runner := by
  rcases leaving.stage with at_ | at_
  · right
    refine ⟨at_, ?_⟩
    have single := leaving.exclusive.strongCount leaving.idle
    simp [Runner.loopStep, at_, single]
  · exact Or.inl at_

/-- In every reachable state, a runner that is not in flight is free. -/
theorem freeWhenIdle_of_run {shared : S} {labels : List (RunnerLabel J C)}
    (run : Run (Runner.step load) AnyStep (new shared) labels runner) :
    FreeWhenIdle load runner := by
  have exclusive := exclusive_of_run run
  constructor
  · intro idle
    exact exclusive.unowned idle
  · intro idle
    exact ⟨exclusive.strongCount idle, exclusive.unreferenced idle⟩
  · intro use at_ direct
    have idle := exclusive.locking use at_ direct
    have free := exclusive.free (by rw [at_]; rfl) (exclusive.unowned idle)
    simp [Runner.loopStep, at_, free]
  · intro job onInterrupt at_
    have free := exclusive.free (by rw [at_]; rfl)
      (exclusive.unowned_of_starting (by rw [at_]; rfl))
    simp [Runner.loopStep, at_, free]
  · intro at_ idle
    change runner.replayRunning = false at idle
    have called : runner.loopStep load .intoBackend = some (runner.goTo .unwrapping) := by
      simp [Runner.loopStep, at_, idle]
    refine ⟨_, called, ?_⟩
    intro labels later calls
    have initial : Leaving (runner.goTo .unwrapping) :=
      ⟨exclusive.loopStep called, idle, Or.inl rfl⟩
    have leaving : Leaving later :=
      calls.invariant initial fun leaving _ stepEq => leaving.step stepEq
    exact leaving.recovering

/-- A job that panics while it is interrupted, until its worker has lowered the
flag. -/
def panickedJob : List (RunnerLabel (Ending Nat) Unit) :=
  [.loop (.start (.panicked .other) (.returned 1)), .loop .proceed, .loop .proceed,
    .loop .proceed, .loop .proceed, .loop .proceed, .loop .proceed, .loop .proceed,
    .worker 0 (), .loop .requestInterrupt, .loop .proceed, .loop .proceed, .worker 0 (),
    .worker 0 (), .worker 0 (), .worker 0 ()]

theorem panickedJob_freeWhenIdle :
    ∃ runner, exec (Runner.step immediate) (new ()) panickedJob = some runner ∧
      runner.loop = .ready ∧ runner.inFlight = false ∧ FreeWhenIdle immediate runner := by
  have ends : (exec (Runner.step immediate) (new ()) panickedJob).map
      (fun runner => (runner.loop, runner.inFlight)) = some (.ready, false) := by decide
  obtain ⟨runner, executed, final⟩ := Option.map_eq_some_iff.mp ends
  rw [Prod.mk.injEq] at final
  exact ⟨runner, executed, final.1, final.2, freeWhenIdle_of_run (run_of_exec executed)⟩

end TtdGdbserver.Gdb.Runner
