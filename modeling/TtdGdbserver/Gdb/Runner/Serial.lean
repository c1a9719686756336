import TtdGdbserver.Gdb.Runner.Channel
import TtdGdbserver.Gdb.Runner.Drain
import TtdGdbserver.Gdb.Runner.Progress

/-!
# A job as one step

While the event loop only waits for a job, the job's memory is its own.  What
the worker has done so far is then the beginning of a run of the closures alone,
and the outcome is what such a run yields: the end of the job or, if an
interrupt was asked for, the end of `on_interrupt` after it.
-/

namespace TtdGdbserver.Gdb

open TtdGdbserver.Transition

variable {S J H R N C : Type}

/-- The outcomes that were delivered, in order. -/
def deliveries (history : List (Event R N)) : List (Outcome R) :=
  history.filterMap fun
    | .delivered _ outcome => some outcome
    | _ => none

namespace Workload

/-- After these choices the job, started on `start`, has become `closure`. -/
def Reaches (load : Workload S J H R N C) (job : J) (start : S) (choices : List C)
    (closure : J) (shared : S) (notes : List N) : Prop :=
  ∀ more, load.complete (choices ++ more) job start =
    (load.complete more closure shared).map fun (ending, final, later) =>
      (ending, final, notes ++ later)

variable {load : Workload S J H R N C} {job closure next : J} {start shared after : S}
  {choices : List C} {choice : C} {notes later : List N} {ending : Ending R}

theorem reaches_start (load : Workload S J H R N C) (job : J) (start : S) :
    load.Reaches job start [] job start [] := by
  intro more
  simp only [List.nil_append, Option.map_id']

theorem Reaches.running (reaches : load.Reaches job start choices closure shared notes)
    (ran : load.run choice closure shared = some (.running next, after, later)) :
    load.Reaches job start (choices ++ [choice]) next after (notes ++ later) := by
  intro more
  rw [List.append_assoc, reaches]
  simp only [List.singleton_append, complete, ran, Option.map_map]
  congr 1
  funext ended
  simp only [Function.comp_apply, List.append_assoc]

theorem Reaches.ended (reaches : load.Reaches job start choices closure shared notes)
    (ran : load.run choice closure shared = some (.ended ending, after, later)) :
    load.complete (choices ++ [choice]) job start = some (ending, after, notes ++ later) := by
  rw [reaches]
  simp only [complete, ran, if_true, Option.map_some]

/-- What a job yields when nobody else touches its memory.  `asked` tells whether
its `on_interrupt` may have been called for. -/
inductive Yields (load : Workload S J H R N C) (asked : Prop) (job onInterrupt : J) (start : S) :
    Outcome R → S → Prop
  | uninterrupted {choices : List C} {ending : Ending R} {final : S} {notes : List N} :
      load.complete choices job start = some (ending, final, notes) →
      Yields load asked job onInterrupt start (Runner.outcomeOf ending) final
  | interrupted {choices more : List C} {result : R} {ending : Ending R} {middle final : S}
      {notes later : List N} : asked →
      load.complete choices job start = some (.returned result, middle, notes) →
      load.complete more onInterrupt middle = some (ending, final, later) →
      Yields load asked job onInterrupt start (Runner.outcomeOf ending) final

/-- How far a worker has come, told by the runs of its closures alone. -/
def Partway (load : Workload S J H R N C) (asked : Prop) (job onInterrupt : J) (start : S)
    (shared : S) : WorkerStage J R → Prop
  | .locking waiting => waiting = job ∧ shared = start
  | .job closure => ∃ choices notes, load.Reaches job start choices closure shared notes
  | .swapping result => ∃ choices notes,
      load.complete choices job start = some (.returned result, shared, notes)
  | .onInterrupt closure => asked ∧ ∃ choices result middle notes more later,
      load.complete choices job start = some (.returned result, middle, notes) ∧
        load.Reaches onInterrupt middle more closure shared later
  | .unlocking outcome | .dropping outcome | .clearing outcome | .sending outcome =>
      load.Yields asked job onInterrupt start outcome shared
  | .done => True

theorem Yields.mono {asked more : Prop} {onInterrupt : J} {outcome : Outcome R}
    (yields : load.Yields asked job onInterrupt start outcome shared) (implies : asked → more) :
    load.Yields more job onInterrupt start outcome shared := by
  cases yields with
  | uninterrupted done => exact .uninterrupted done
  | interrupted called done interrupted => exact .interrupted (implies called) done interrupted

theorem Partway.mono {asked more : Prop} {onInterrupt : J} {stage : WorkerStage J R}
    (partway : load.Partway asked job onInterrupt start shared stage) (implies : asked → more) :
    load.Partway more job onInterrupt start shared stage := by
  cases stage with
  | onInterrupt => exact ⟨implies partway.1, partway.2⟩
  | unlocking | dropping | clearing | sending => exact Yields.mono partway implies
  | locking | job | swapping | done => exact partway

end Workload

namespace Runner

variable {load : Workload S J H R N C} {runner next : Runner S J H R N} {number : Nat}
  {worker : Worker J R} {choice : C} {asked : Prop} {job : J} {start : S}

/-- A closure that ends in either place ends a part of the run. -/
theorem partway_ended {which : Closure} {closure : J} {ending : Ending R} {shared : S}
    {notes : List N}
    (partway : load.Partway asked job worker.onInterrupt start runner.shared
      (insideClosure which closure))
    (ran : load.run choice closure runner.shared = some (.ended ending, shared, notes)) :
    load.Partway asked job worker.onInterrupt start shared (afterClosure which ending) := by
  cases which with
  | job =>
      obtain ⟨choices, sofar, reaches⟩ := partway
      have done := reaches.ended ran
      cases ending with
      | returned result => exact ⟨_, _, done⟩
      | panicked payload => exact .uninterrupted done
  | onInterrupt =>
      obtain ⟨called, choices, result, middle, sofar, more, later, done, reaches⟩ := partway
      have interrupted := reaches.ended ran
      cases ending with
      | returned result => exact .interrupted called done interrupted
      | panicked payload => exact .interrupted called done interrupted

/-- Every step of the worker is a step of that run. -/
theorem partway_workerStep
    (partway : load.Partway asked job worker.onInterrupt start runner.shared worker.stage)
    (flagged : runner.interrupted = true → asked)
    (stepEq : runner.workerStep load number worker choice = some next) :
    ∃ stage, next.workers = runner.workers.set number { worker with stage := stage } ∧
      load.Partway asked job worker.onInterrupt start next.shared stage ∧
      (next.interrupted = true → asked) ∧
      ((stage ≠ .done ∧ next.queue = runner.queue) ∨
        ∃ outcome, stage = .done ∧
          load.Yields asked job worker.onInterrupt start outcome next.shared ∧
          next.queue = if runner.rx = some number then runner.queue ++ [(number, outcome)]
            else runner.queue) := by
  have turn : WorkerTurn load runner next number worker choice := workerTurn_workerStep stepEq
  cases turn with
  | locked waiting at_ free next_eq =>
      subst next_eq
      rw [at_] at partway
      obtain ⟨rfl, unchanged⟩ := partway
      refine ⟨_, rfl, ⟨[], [], ?_⟩, flagged, .inl ⟨by simp, rfl⟩⟩
      show load.Reaches waiting start [] waiting runner.shared []
      rw [unchanged]
      exact load.reaches_start waiting start
  | goesOn which closure following shared notes at_ ran next_eq =>
      subst next_eq
      rw [at_] at partway
      refine ⟨_, rfl, ?_, flagged, .inl ⟨insideClosure_ne_done which following, rfl⟩⟩
      cases which with
      | job =>
          obtain ⟨choices, sofar, reaches⟩ := partway
          exact ⟨_, _, reaches.running ran⟩
      | onInterrupt =>
          obtain ⟨called, choices, result, middle, sofar, more, later, done, reaches⟩ := partway
          exact ⟨called, choices, result, middle, sofar, _, _, done, reaches.running ran⟩
  | ended which closure ending shared notes at_ ran next_eq =>
      subst next_eq
      rw [at_] at partway
      exact ⟨_, rfl, partway_ended partway ran, flagged,
        .inl ⟨afterClosure_ne_done which ending, rfl⟩⟩
  | swapped result at_ next_eq =>
      subst next_eq
      rw [at_] at partway
      obtain ⟨choices, notes, done⟩ := partway
      refine ⟨_, rfl, ?_, nofun, .inl ⟨by cases runner.interrupted <;> simp, rfl⟩⟩
      cases flag : runner.interrupted with
      | true =>
          exact ⟨flagged flag, choices, result, runner.shared, notes, [], [], done,
            load.reaches_start worker.onInterrupt runner.shared⟩
      | false => exact .uninterrupted done
  | unlocked outcome at_ next_eq =>
      subst next_eq
      rw [at_] at partway
      exact ⟨_, rfl, partway, flagged, .inl ⟨by simp, rfl⟩⟩
  | dropped outcome at_ next_eq =>
      subst next_eq
      rw [at_] at partway
      exact ⟨_, rfl, partway, flagged, .inl ⟨by simp, rfl⟩⟩
  | cleared outcome at_ next_eq =>
      subst next_eq
      rw [at_] at partway
      exact ⟨_, rfl, partway, flagged, .inl ⟨by simp, rfl⟩⟩
  | sent outcome at_ next_eq =>
      subst next_eq
      rw [at_] at partway
      exact ⟨_, rfl, trivial, flagged, .inr ⟨outcome, rfl, partway, rfl⟩⟩

end Runner

/-! ## The event loop while it only waits -/

/-- The event loop is about to ask for an interrupt, or waits for the stop. -/
def LoopStage.asking {J H : Type} : LoopStage J H → Bool
  | .requesting _ | .storing _ | .firing .. | .checking | .waiting => true
  | _ => false

/-- The event loop holds the backend, or is about to. -/
def LoopStage.locks {J H : Type} : LoopStage J H → Bool
  | .locking _ | .holding _ => true
  | _ => false

/-- The call asks for an interrupt. -/
def LoopAction.asks {J C : Type} : LoopAction J C → Bool
  | .requestInterrupt | .onInterrupt => true
  | _ => false

/-- The call takes the lock, or tries to. -/
def LoopAction.locks {J C : Type} : LoopAction J C → Bool
  | .tryLock | .lock => true
  | _ => false

/-- An action that starts no job and ends no session. -/
def LoopAction.attends {J C : Type} : LoopAction J C → Bool
  | .start .. | .access _ | .intoBackend | .giveUp => false
  | _ => true

namespace Runner

variable {load : Workload S J H R N C} {runner next : Runner S J H R N}
  {action : LoopAction J C}

/-- A step that leaves the job and its memory alone. -/
structure Waited (runner next : Runner S J H R N) (action : LoopAction J C) : Prop where
  shared : next.shared = runner.shared
  workers : next.workers = runner.workers
  queue : next.queue = runner.queue
  accepted : acceptedJobs next.history = acceptedJobs runner.history
  delivered : deliveredJobs next.history = deliveredJobs runner.history
  outcomes : deliveries next.history = deliveries runner.history
  calm : next.loop.starting = false
  flag : next.interrupted = true → runner.interrupted = true ∨ runner.loop.asking = true
  asking : next.loop.asking = true → runner.loop.asking = true ∨ action.asks = true
  locks : next.loop.locks = true → runner.loop.locks = true ∨ action.locks = true

/-- What the event loop does between the start of a job and its stop, or between
two commands. -/
inductive Attended (load : Workload S J H R N C) (runner next : Runner S J H R N)
    (action : LoopAction J C) : Prop
  | waited (waited : Waited runner next action)
  | received (unlocked : runner.loop.locks = false) (received : runner.receive = some next)
  | served (choice : C) (use : LockUse) (action_eq : action = .serve choice)
      (at_ : runner.loop = .holding use)
      (next_eq : next = { runner with shared := load.serve choice runner.shared })

/-- The event accepts nothing and delivers nothing. -/
def Neutral (event : Event R N) : Prop :=
  event.acceptedJob = none ∧ event.deliveredJob = none

theorem deliveries_append_of_neutral {history events : List (Event R N)}
    (neutral : ∀ event ∈ events, Neutral event) :
    deliveries (history ++ events) = deliveries history := by
  have nothing : deliveries events = [] := by
    refine List.filterMap_eq_nil_iff.mpr fun event present => ?_
    have undelivered := (neutral event present).2
    cases event <;> first | rfl | cases undelivered
  rw [deliveries, List.filterMap_append]
  exact (congrArg (deliveries history ++ ·) nothing).trans (List.append_nil _)

section Flags

attribute [local simp] LoopStage.starting LoopStage.asking LoopStage.locks LoopStage.leaving
  LoopAction.asks LoopAction.locks LoopAction.attends

/-- A step that changes no more than the stage, the lock and the flag. -/
theorem Attended.still (events : List (Event R N)) (neutral : ∀ event ∈ events, Neutral event)
    (shared : next.shared = runner.shared) (workers : next.workers = runner.workers)
    (queue : next.queue = runner.queue) (history : next.history = runner.history ++ events)
    (flag : next.interrupted = true → runner.interrupted = true ∨ runner.loop.asking = true)
    (stages : next.loop.starting = false ∧
      (next.loop.asking = true → runner.loop.asking = true ∨ action.asks = true) ∧
      (next.loop.locks = true → runner.loop.locks = true ∨ action.locks = true)) :
    Attended load runner next action := by
  refine .waited ⟨shared, workers, queue, ?_, ?_, ?_, stages.1, flag, stages.2.1, stages.2.2⟩
  · rw [history]
    exact acceptedJobs_append_of_none fun event present => (neutral event present).1
  · rw [history]
    exact deliveredJobs_append_of_none fun event present => (neutral event present).2
  · rw [history]
    exact deliveries_append_of_neutral neutral

/-- A step that changes no more than the stage and the lock, and tells nothing. -/
theorem Attended.silent (shared : next.shared = runner.shared)
    (workers : next.workers = runner.workers) (queue : next.queue = runner.queue)
    (history : next.history = runner.history)
    (flag : next.interrupted = true → runner.interrupted = true)
    (stages : next.loop.starting = false ∧
      (next.loop.asking = true → runner.loop.asking = true ∨ action.asks = true) ∧
      (next.loop.locks = true → runner.loop.locks = true ∨ action.locks = true)) :
    Attended load runner next action :=
  .still [] (by simp) shared workers queue (history.trans (List.append_nil _).symm)
    (fun interrupted => .inl (flag interrupted)) stages

theorem attended_requestInterrupt {requester : Requester} (staying : requester ≠ .intoBackend)
    (asks : runner.loop.asking = true ∨ action.asks = true) :
    Attended load runner (runner.requestInterrupt requester) action := by
  refine .silent rfl rfl rfl rfl id ⟨?_, fun _ => asks, ?_⟩
  all_goals
    unfold requestInterrupt
    cases runner.replayRunning <;> cases requester <;> simp [Requester.resumeAt] at staying ⊢

theorem neutral_noStop : ∀ event ∈ [(.noStop : Event R N)], Neutral event := by
  simp [Neutral, Event.acceptedJob, Event.deliveredJob]

theorem neutral_stored : ∀ event ∈ [(.stored : Event R N)], Neutral event := by
  simp [Neutral, Event.acceptedJob, Event.deliveredJob]

theorem neutral_loopNotes (notes : List N) :
    ∀ event ∈ notes.map Event.loopNote, Neutral (R := R) event := by
  intro event present
  obtain ⟨note, -, rfl⟩ := List.mem_map.mp present
  exact ⟨rfl, rfl⟩

/-- A step of the handle, which touches no memory. -/
theorem attended_fired {handle : H} {requester : Requester} {rest : Option H} {shared : S}
    {notes : List N} (at_ : runner.loop = .firing handle requester)
    (staying : runner.loop.leaving = false) (kept : shared = runner.shared) :
    Attended load runner (({ runner with shared := shared }.goTo
      (requester.afterFire rest)).record (notes.map Event.loopNote)) action := by
  refine .still _ (neutral_loopNotes notes) kept rfl rfl rfl .inl ?_
  rw [at_] at staying
  cases rest <;> cases requester <;>
    simp [at_, Requester.resumeAt, Requester.afterFire] at staying ⊢

/-- These steps are all there are, outside a start and the end of a session, with
a handle that touches no memory. -/
theorem attended_loopStep
    (light : ∀ handle shared rest after notes,
      load.fire handle shared = some (rest, after, notes) → after = shared)
    (calm : runner.loop.starting = false) (staying : runner.loop.leaving = false)
    (attends : action.attends = true) (stepEq : runner.loopStep load action = some next) :
    Attended load runner next action := by
  cases loopTurn_loopStep stepEq with
  | refused | accepted | accessed | leaving => cases attends
  | reset _ _ at_ | lockedResume _ _ at_ | resumed _ _ at_ | released _ _ at_
  | swapped _ _ at_ | cloned _ _ at_ | spawned _ _ at_ => simp [at_] at calm
  | polled at_ | gaveUp at_ | closed at_ => simp [at_] at staying
  | received at_ received =>
      rcases at_ with at_ | at_
      all_goals exact .received (by simp [at_]) received
  | served choice use at_ next_eq => exact .served choice use rfl at_ next_eq
  | asked at_ next_eq =>
      subst next_eq
      exact attended_requestInterrupt (by simp) (.inr rfl)
  | requested requester at_ next_eq =>
      subst next_eq
      refine attended_requestInterrupt ?_ (.inl (by simp [at_]))
      rintro rfl
      simp [at_] at staying
  | stored requester at_ next_eq =>
      subst next_eq
      refine .still _ neutral_stored rfl rfl rfl rfl (fun _ => .inr (by simp [at_])) ?_
      cases load.handle <;> cases requester <;>
        simp [at_, Requester.resumeAt, Requester.afterFire] at staying ⊢
  | fired handle requester rest shared notes at_ fire next_eq =>
      subst next_eq
      exact attended_fired at_ staying (light _ _ _ _ _ fire)
  | noStop at_ next_eq =>
      subst next_eq
      exact .still _ neutral_noStop rfl rfl rfl rfl .inl (by simp)
  | triedLock at_ next_eq =>
      subst next_eq
      refine .silent rfl rfl rfl rfl id ?_
      cases runner.replayRunning <;> simp
  | nothing at_ _ next_eq | interrupting at_ next_eq | waits at_ _ next_eq
  | wantsLock at_ next_eq | locked _ at_ _ next_eq | unlocked _ at_ next_eq =>
      subst next_eq
      exact .silent rfl rfl rfl rfl id (by simp [at_])

end Flags

end Runner

end TtdGdbserver.Gdb
