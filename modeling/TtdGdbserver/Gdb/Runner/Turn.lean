import TtdGdbserver.Gdb.Runner.History

/-!
# What a step of the event loop can do

Most steps of the event loop leave the workers, the channel and the interrupt
flag alone.  The others accept a job, take it one step further to its worker,
store the flag, or receive an outcome.
-/

namespace TtdGdbserver.Gdb

/-- `start` has reset the flag for the worker to come. -/
def LoopStage.wasReset {J H : Type} : LoopStage J H → Bool
  | .lockingResume .. | .resuming .. | .releasing .. | .swappingReceiver .. | .cloning ..
  | .spawning .. => true
  | _ => false

/-- The closures of the worker to come. -/
def LoopStage.closures {J H : Type} : LoopStage J H → Option (J × J)
  | .resetting job onInterrupt | .lockingResume job onInterrupt | .resuming job onInterrupt
  | .releasing job onInterrupt | .swappingReceiver job onInterrupt | .cloning job onInterrupt
  | .spawning job onInterrupt => some (job, onInterrupt)
  | _ => none

/-- The event loop is in `into_backend`, or past it. -/
def LoopStage.leaving {J H : Type} : LoopStage J H → Bool
  | .requesting .intoBackend | .storing .intoBackend | .firing _ .intoBackend | .polling
  | .unwrapping | .finished _ => true
  | _ => false

namespace Runner

variable {S J H R N C : Type} {load : Workload S J H R N C}
variable {runner next : Runner S J H R N}

/-- An event that accepts, resets and delivers nothing, and marks no job but
those from `low` on and before `high`. -/
structure Interim (low high : Nat) (event : Event R N) : Prop where
  accepts : event.acceptedJob = none
  delivers : event.deliveredJob = none
  resets : ∀ number, event ≠ .reset number
  marks : ∀ number, event.marks number = true → low ≤ number ∧ number < high

theorem Interim.unmarked {low high number : Nat} {event : Event R N}
    (interim : Interim low high event) (outside : number < low ∨ high ≤ number) :
    event.marks number = false := by
  cases marks : event.marks number with
  | false => rfl
  | true =>
      have within := interim.marks number marks
      omega

theorem Interim.widen {event : Event R N} (interim : Interim 0 0 event) (low high : Nat) :
    Interim low high event := by
  refine ⟨interim.accepts, interim.delivers, interim.resets, ?_⟩
  intro number marks
  exact absurd (interim.marks number marks).2 (Nat.not_lt_zero number)

theorem interim_refused : Interim 0 0 (.refused : Event R N) := by
  constructor <;> simp [Event.acceptedJob, Event.deliveredJob, Event.marks]

theorem interim_noStop : Interim 0 0 (.noStop : Event R N) := by
  constructor <;> simp [Event.acceptedJob, Event.deliveredJob, Event.marks]

theorem interim_loopNote (note : N) : Interim 0 0 (.loopNote note : Event R N) := by
  constructor <;> simp [Event.acceptedJob, Event.deliveredJob, Event.marks]

/-! ## The kinds of steps -/

/-- A step of the event loop that leaves alone what decides about outcomes. -/
structure Passed (runner next : Runner S J H R N) (events : List (Event R N)) : Prop where
  workers : next.workers = runner.workers
  interrupted : next.interrupted = runner.interrupted
  running : next.replayRunning = runner.replayRunning
  rx : next.rx = runner.rx
  queue : next.queue = runner.queue
  history : next.history = runner.history ++ events
  neutral : ∀ event ∈ events, event ≠ .stored ∧ Interim 0 0 event
  starting : next.loop.starting = runner.loop.starting
  wasReset : next.loop.wasReset = runner.loop.wasReset
  subscribed : next.loop.subscribed = true → runner.loop.subscribed = true
  closures : next.loop.closures = runner.loop.closures

/-- What a step of the event loop may do to the memory of the closures, the
handle and accesses without the lock apart. -/
inductive Touched (load : Workload S J H R N C) (before after : S) : Prop
  | same (kept : after = before)
  | resumed (began : after = load.beginResume before)
  | served (choice : C) (use : after = load.serve choice before)

/-- What a step of the event loop does. -/
inductive Turned (load : Workload S J H R N C) (runner next : Runner S J H R N) :
    LoopAction J C → Prop
  | passed {action : LoopAction J C} (events : List (Event R N))
      (open_ : ∀ recovered, runner.loop ≠ .finished recovered)
      (passed : Passed runner next events) (touched : Touched load runner.shared next.shared)
      (quiet : events = [] ∨ events = [.refused] ∨ events = [.noStop])
      (leaving : next.loop.leaving = true →
        runner.loop.leaving = true ∨ action = .intoBackend) : Turned load runner next action
  | fired (handle : H) (requester : Requester) (rest : Option H) (shared : S) (notes : List N)
      (at_ : runner.loop = .firing handle requester)
      (fire : load.fire handle runner.shared = some (rest, shared, notes))
      (next_eq : next = ({ runner with shared := shared }.goTo
        (requester.afterFire rest)).record (notes.map Event.loopNote)) :
      Turned load runner next .proceed
  | accessed (choice : C) (at_ : runner.loop = .ready)
      (next_eq : next = { runner with shared := (load.access choice runner.shared).1 }.record
        ((load.access choice runner.shared).2.map Event.loopNote)) :
      Turned load runner next (.access choice)
  | accepted (job onInterrupt : J) (at_ : runner.loop = .ready)
      (idle : runner.replayRunning = false)
      (next_eq : next = ({ runner with replayRunning := true }.goTo
        (.resetting job onInterrupt)).record [.accepted runner.workers.length]) :
      Turned load runner next (.start job onInterrupt)
  | reset (job onInterrupt : J) (at_ : runner.loop = .resetting job onInterrupt)
      (next_eq : next = ({ runner with interrupted := false }.goTo
        (.lockingResume job onInterrupt)).record [.reset runner.workers.length]) :
      Turned load runner next .proceed
  | swapped (job onInterrupt : J) (at_ : runner.loop = .swappingReceiver job onInterrupt)
      (next_eq : next = { runner with rx := some runner.workers.length, queue := [] }.goTo
        (.cloning job onInterrupt)) : Turned load runner next .proceed
  | spawned (job onInterrupt : J) (at_ : runner.loop = .spawning job onInterrupt)
      (next_eq : next = { runner with
        workers := runner.workers ++ [Worker.mk onInterrupt (.locking job)] }.goTo .ready) :
      Turned load runner next .proceed
  | stored (requester : Requester) (stage : LoopStage J H)
      (at_ : runner.loop = .storing requester) (calm : stage.starting = false)
      (single : stage.wasReset = false) (alone : stage.closures = none)
      (leaving : stage.leaving = true → runner.loop.leaving = true)
      (next_eq : next = ({ runner with interrupted := true }.goTo stage).record [.stored]) :
      Turned load runner next .proceed
  | received {action : LoopAction J C} (calm : runner.loop.starting = false)
      (single : runner.loop.wasReset = false)
      (open_ : ∀ recovered, runner.loop ≠ .finished recovered)
      (received : runner.receive = some next) : Turned load runner next action
  | closed (at_ : runner.loop = .unwrapping)
      (next_eq : next = { runner with rx := none, queue := [] }.goTo
        (.finished (runner.strongCount == 1))) : Turned load runner next .proceed

section Flags

attribute [local simp] LoopStage.starting LoopStage.wasReset LoopStage.subscribed
  LoopStage.closures LoopStage.leaving Requester.resumeAt Requester.afterFire

/-- A step of the handle. -/
theorem passed_fired {handle : H} {requester : Requester} {rest : Option H} {shared : S}
    {notes : List N} (at_ : runner.loop = .firing handle requester) :
    Passed runner (({ runner with shared := shared }.goTo
      (requester.afterFire rest)).record (notes.map Event.loopNote))
      (notes.map Event.loopNote) := by
  cases rest <;> cases requester <;> constructor <;> simp [at_, interim_loopNote]

theorem leaving_fired {handle : H} {requester : Requester} {rest : Option H}
    (left_ : (requester.afterFire rest : LoopStage J H).leaving = true) :
    LoopStage.leaving (.firing handle requester : LoopStage J H) = true := by
  cases rest <;> cases requester <;> simp at left_ ⊢

theorem passed_requestInterrupt {requester : Requester} (calm : runner.loop.starting = false)
    (single : runner.loop.wasReset = false) (alone : runner.loop.closures = none) :
    Passed runner (runner.requestInterrupt requester) [] := by
  refine ⟨rfl, rfl, rfl, rfl, rfl, by simp [requestInterrupt], by simp, ?_, ?_, ?_, ?_⟩
  · rw [calm, requestInterrupt]
    cases runner.replayRunning <;> cases requester <;> rfl
  · rw [single, requestInterrupt]
    cases runner.replayRunning <;> cases requester <;> rfl
  · rw [requestInterrupt]
    cases runner.replayRunning <;> cases requester <;> intro subscribed <;> cases subscribed
  · rw [alone, requestInterrupt]
    cases runner.replayRunning <;> cases requester <;> rfl

/-- A step that leaves no event and no memory changed. -/
theorem Turned.stay {action : LoopAction J C}
    (open_ : ∀ recovered, runner.loop ≠ .finished recovered) (passed : Passed runner next [])
    (shared : next.shared = runner.shared)
    (leaving : next.loop.leaving = true → runner.loop.leaving = true ∨ action = .intoBackend) :
    Turned load runner next action :=
  .passed [] open_ passed (.same shared) (Or.inl rfl) leaving

/-- The runner comes out of `request_interrupt`. -/
theorem turned_requestInterrupt {action : LoopAction J C} {requester : Requester}
    (at_ : runner.loop = .requesting requester ∨ runner.loop = .ready ∧ requester = .eventLoop) :
    Turned load runner (runner.requestInterrupt requester) action := by
  rcases at_ with at_ | ⟨at_, rfl⟩
  · refine .stay (by simp [at_]) (passed_requestInterrupt ?_ ?_ ?_) rfl ?_
    all_goals
      cases idle : runner.replayRunning <;> cases requester <;>
        simp [at_, requestInterrupt, idle]
  · refine .stay (by simp [at_]) (passed_requestInterrupt ?_ ?_ ?_) rfl ?_
    all_goals cases idle : runner.replayRunning <;> simp [at_, requestInterrupt, idle]

/-- `on_interrupt` returns `None`. -/
theorem turned_noStop {action : LoopAction J C}
    (at_ : runner.loop = .checking ∨ runner.loop = .waiting) :
    Turned load runner ((runner.goTo .ready).record [.noStop]) action := by
  rcases at_ with at_ | at_
  all_goals
    refine .passed [.noStop] (by simp [at_]) ?_ (.same rfl) (by simp) (by simp)
    constructor <;> simp [at_, interim_noStop]

/-- The kinds are all there are. -/
theorem turned_loopStep {action : LoopAction J C}
    (stepEq : runner.loopStep load action = some next) : Turned load runner next action := by
  cases loopTurn_loopStep stepEq with
  | accepted job onInterrupt at_ idle next_eq => exact .accepted job onInterrupt at_ idle next_eq
  | reset job onInterrupt at_ next_eq => exact .reset job onInterrupt at_ next_eq
  | swapped job onInterrupt at_ next_eq => exact .swapped job onInterrupt at_ next_eq
  | spawned job onInterrupt at_ next_eq => exact .spawned job onInterrupt at_ next_eq
  | received at_ received =>
      rcases at_ with at_ | at_
      all_goals exact .received (by simp [at_]) (by simp [at_]) (by simp [at_]) received
  | stored requester at_ next_eq =>
      refine .stored requester _ at_ ?_ ?_ ?_ ?_ next_eq
      all_goals cases load.handle <;> cases requester <;> simp [at_]
  | fired handle requester rest shared notes at_ fire next_eq =>
      exact .fired handle requester rest shared notes at_ fire next_eq
  | accessed choice at_ next_eq => exact .accessed choice at_ next_eq
  | closed at_ next_eq => exact .closed at_ next_eq
  -- The other steps leave alone what decides about outcomes.
  | refused job onInterrupt at_ running next_eq =>
      subst next_eq
      refine .passed [.refused] (by simp [at_]) ?_ (.same rfl) (by simp) (by simp [at_])
      constructor <;> simp [interim_refused]
  | resumed job onInterrupt at_ next_eq =>
      subst next_eq
      refine .passed [] (by simp [at_]) ?_ (.resumed rfl) (by simp) (by simp)
      constructor <;> simp [at_]
  | served choice use at_ next_eq =>
      subst next_eq
      refine .passed [] (by simp [at_]) ?_ (.served choice rfl) (by simp) (by simp [at_])
      constructor <;> simp
  | noStop at_ next_eq =>
      subst next_eq
      exact turned_noStop at_
  | asked at_ next_eq =>
      subst next_eq
      exact turned_requestInterrupt (.inr ⟨at_, rfl⟩)
  | requested requester at_ next_eq =>
      subst next_eq
      exact turned_requestInterrupt (.inl at_)
  | triedLock at_ next_eq | leaving at_ next_eq =>
      subst next_eq
      refine .stay (by simp [at_]) ?_ rfl (by split <;> simp)
      split <;> constructor <;> simp [at_]
  | polled at_ next_eq =>
      subst next_eq
      refine .stay (by simp [at_]) ?_ rfl (by simp [at_])
      split <;> constructor <;> simp [at_]
  | nothing at_ _ next_eq | gaveUp at_ next_eq =>
      subst next_eq
      refine .stay (by simp [at_]) ?_ rfl (by simp [at_])
      constructor <;> simp [at_]
  | lockedResume _ _ at_ _ next_eq | released _ _ at_ next_eq | cloned _ _ at_ next_eq
  | interrupting at_ next_eq | waits at_ _ next_eq | wantsLock at_ next_eq
  | locked _ at_ _ next_eq | unlocked _ at_ next_eq =>
      subst next_eq
      refine .stay (by simp [at_]) ?_ rfl (by simp)
      constructor <;> simp [at_]

end Flags

/-- An access happens between two calls. -/
theorem accessed_loopStep {choice : C}
    (stepEq : runner.loopStep load (.access choice) = some next) :
    runner.loop = .ready ∧
      next = { runner with shared := (load.access choice runner.shared).1 }.record
        ((load.access choice runner.shared).2.map Event.loopNote) := by
  unfold Runner.loopStep at stepEq
  split at stepEq
  all_goals try contradiction
  rename_i at_ same
  cases same
  cases stepEq
  exact ⟨at_, rfl⟩

/-- So does a start, which an idle runner accepts. -/
theorem accepted_loopStep {job onInterrupt : J} (idle : runner.replayRunning = false)
    (stepEq : runner.loopStep load (.start job onInterrupt) = some next) :
    runner.loop = .ready ∧
      next = ({ runner with replayRunning := true }.goTo
        (.resetting job onInterrupt)).record [.accepted runner.workers.length] := by
  unfold Runner.loopStep at stepEq
  split at stepEq
  all_goals try contradiction
  rename_i at_ same
  cases same
  rw [idle] at stepEq
  cases stepEq
  exact ⟨at_, rfl⟩

end Runner

end TtdGdbserver.Gdb
