import TtdGdbserver.Gdb.Runner.Idle
import TtdGdbserver.Gdb.Runner.Turn

/-!
# Every accepted start delivers its own outcome once

As long as the event loop starts a job only after it has received the outcome
of the job before, at most one job is on its way, and a job is on its way until
its outcome is delivered.
-/

namespace TtdGdbserver.Gdb

open TtdGdbserver.Transition

/-! ## Events of one worker -/

/-- The event is one that the worker of this job leaves. -/
def Event.ownedBy {R N : Type} (number : Nat) : Event R N → Bool
  | .swapped other => other == number
  | .ended other _ _ => other == number
  | .jobNote other _ => other == number
  | _ => false

namespace Runner

variable {S J H R N C : Type} {load : Workload S J H R N C}
variable {runner next : Runner S J H R N}

/-- The effect of a worker's step on what decides about its outcome. -/
structure Acted (runner next : Runner S J H R N) (number : Nat) (worker : Worker J R)
    (stage : WorkerStage J R) (events : List (Event R N)) : Prop where
  workers : next.workers = runner.workers.set number { worker with stage := stage }
  loop : next.loop = runner.loop
  rx : next.rx = runner.rx
  history : next.history = runner.history ++ events
  own : ∀ event ∈ events, event.ownedBy number = true
  law : StageLaw runner.interrupted runner.history number worker.stage →
    StageLaw next.interrupted next.history number stage
  /-- The last step sends the outcome if the receiver is still there. -/
  sent : stage ≠ .done ∧ next.queue = runner.queue ∨
    ∃ outcome, worker.stage = .sending outcome ∧ stage = .done ∧ events = [] ∧
      next.queue = if runner.rx = some number then runner.queue ++ [(number, outcome)]
        else runner.queue

/-- The notes of a closure. -/
theorem ownedBy_notes {number : Nat} {notes : List N} {event : Event R N}
    (present : event ∈ notes.map (Event.jobNote number)) : event.ownedBy number = true := by
  obtain ⟨note, _, rfl⟩ := List.mem_map.mp present
  simp [Event.ownedBy]

theorem insideClosure_ne_done (which : Closure) (closure : J) :
    (insideClosure which closure : WorkerStage J R) ≠ .done := by
  cases which <;> simp [insideClosure]

theorem afterClosure_ne_done (which : Closure) (ending : Ending R) :
    (afterClosure which ending : WorkerStage J R) ≠ .done := by
  cases which <;> cases ending <;> simp [afterClosure]

/-- Every step of a worker is an act of that worker. -/
theorem acted_workerStep {number : Nat} {worker : Worker J R} {choice : C}
    (stepEq : runner.workerStep load number worker choice = some next) :
    ∃ stage events, Acted runner next number worker stage events := by
  have turn : WorkerTurn load runner next number worker choice := workerTurn_workerStep stepEq
  rcases worker with ⟨onInterrupt, stage⟩
  cases turn with
  | locked job at_ free next_eq =>
      cases at_
      subst next_eq
      exact ⟨.job job, [], rfl, rfl, rfl, by simp, by simp, fun law => law,
        Or.inl ⟨by simp, rfl⟩⟩
  | goesOn which closure following shared notes at_ ran next_eq =>
      cases at_
      subst next_eq
      refine ⟨insideClosure which following, notes.map (Event.jobNote number), rfl, rfl, rfl, rfl,
        fun event present => ownedBy_notes present, ?_,
        Or.inl ⟨insideClosure_ne_done which following, rfl⟩⟩
      intro law
      have kept := StageLaw.notes number notes law
      cases which <;> exact kept
  | ended which closure ending shared notes at_ ran next_eq =>
      cases at_
      subst next_eq
      refine ⟨afterClosure which ending, notes.map (Event.jobNote number) ++
        [.ended number which ending], rfl, rfl, rfl, rfl, ?_, ?_,
        Or.inl ⟨afterClosure_ne_done which ending, rfl⟩⟩
      · intro event present
        rcases List.mem_append.mp present with note | last
        · exact ownedBy_notes note
        · rw [List.mem_singleton.mp last]
          simp [Event.ownedBy]
      · intro law
        have ended := (StageLaw.notes number notes law).ended ending
        rw [List.append_assoc] at ended
        exact ended
  | swapped result at_ next_eq =>
      cases at_
      subst next_eq
      refine ⟨_, [.swapped number], rfl, rfl, rfl, rfl, by simp [Event.ownedBy], ?_, ?_⟩
      · intro law
        exact law.swap onInterrupt
      · left
        refine ⟨?_, rfl⟩
        cases runner.interrupted <;> simp
  | unlocked outcome at_ next_eq =>
      cases at_
      subst next_eq
      exact ⟨.dropping outcome, [], rfl, rfl, rfl, by simp, by simp, fun law => law,
        Or.inl ⟨by simp, rfl⟩⟩
  | dropped outcome at_ next_eq =>
      cases at_
      subst next_eq
      exact ⟨.clearing outcome, [], rfl, rfl, rfl, by simp, by simp, fun law => law,
        Or.inl ⟨by simp, rfl⟩⟩
  | cleared outcome at_ next_eq =>
      cases at_
      subst next_eq
      exact ⟨.sending outcome, [], rfl, rfl, rfl, by simp, by simp, fun law => law,
        Or.inl ⟨by simp, rfl⟩⟩
  | sent outcome at_ next_eq =>
      cases at_
      subst next_eq
      exact ⟨.done, [], rfl, rfl, rfl, by simp, by simp, fun _ => trivial,
        Or.inr ⟨outcome, rfl, rfl, rfl, rfl⟩⟩

/-! ## The invariant -/

/-- What the history says while the outcomes of the first `delivered` jobs have
been delivered, `accepted` jobs have been accepted, the flag has been reset for
the first `armed` ones and the first `spawned` ones have a worker. -/
structure Chronicle (history : List (Event R N)) (delivered accepted armed spawned : Nat) :
    Prop where
  inOrder : deliveredJobs history = List.range delivered
  accepted : acceptedJobs history = List.range accepted
  attributed : ∀ number outcome, .delivered number outcome ∈ history →
    Attributed number outcome history
  latest : DeliveredLatest history
  /-- The flag was not reset for a job to come. -/
  unreset : ∀ number, armed ≤ number → .reset number ∉ history
  /-- No worker of a job to come has acted. -/
  fresh : ∀ number, spawned ≤ number → Silent number history

section Chronicle

variable {history : List (Event R N)} {delivered accepted armed spawned : Nat}

theorem Chronicle.lt_of_mem (chronicle : Chronicle history delivered accepted armed spawned)
    {number : Nat} {outcome : Outcome R} (present : .delivered number outcome ∈ history) :
    number < delivered := by
  have listed : number ∈ deliveredJobs history := List.mem_filterMap.mpr ⟨_, present, rfl⟩
  rw [chronicle.inOrder] at listed
  exact List.mem_range.mp listed

/-- An event that delivers nothing and marks no job leaves what was delivered to
its jobs. -/
theorem Chronicle.attributed_snoc
    (chronicle : Chronicle history delivered accepted armed spawned) {event : Event R N}
    (undelivered : event.deliveredJob = none) (unmarked : ∀ number, event.marks number = false)
    (number : Nat) (outcome : Outcome R)
    (present : .delivered number outcome ∈ history ++ [event]) :
    Attributed number outcome (history ++ [event]) := by
  rcases List.mem_append.mp present with before | now
  · exact (chronicle.attributed number outcome before).snoc (unmarked number)
  · cases List.mem_singleton.mp now
    contradiction

theorem Chronicle.latest_snoc (chronicle : Chronicle history delivered accepted armed spawned)
    {event : Event R N} (undelivered : event.deliveredJob = none) :
    DeliveredLatest (history ++ [event]) := by
  apply chronicle.latest.snoc
  rintro number outcome rfl
  contradiction

/-- Events of the jobs on their way leave the rest of the history as it was. -/
theorem Chronicle.append (chronicle : Chronicle history delivered accepted armed spawned)
    {events : List (Event R N)} (interim : ∀ event ∈ events, Interim delivered spawned event) :
    Chronicle (history ++ events) delivered accepted armed spawned := by
  constructor
  · rw [deliveredJobs_append_of_none fun event present => (interim event present).delivers]
    exact chronicle.inOrder
  · rw [acceptedJobs_append_of_none fun event present => (interim event present).accepts]
    exact chronicle.accepted
  · intro number outcome present
    rcases List.mem_append.mp present with before | now
    · have earlier := chronicle.lt_of_mem before
      exact append_of_snoc (Attributed number outcome) (fun event => event.marks number = false)
        Attributed.snoc (chronicle.attributed number outcome before)
        fun event present => (interim event present).unmarked (Or.inl earlier)
    · have none_ := (interim _ now).delivers
      contradiction
  · refine append_of_snoc DeliveredLatest (fun event => event.deliveredJob = none) ?_
      chronicle.latest fun event present => (interim event present).delivers
    rintro history event latest other
    apply latest.snoc
    rintro number outcome rfl
    contradiction
  · intro number beyond present
    rcases List.mem_append.mp present with before | now
    · exact chronicle.unreset number beyond before
    · exact (interim _ now).resets number rfl
  · intro number beyond
    exact append_of_snoc (Silent number) (fun event => event.marks number = false) Silent.snoc
      (chronicle.fresh number beyond)
      fun event present => (interim event present).unmarked (Or.inr beyond)

/-- Accepting the next job. -/
theorem Chronicle.accept (chronicle : Chronicle history delivered accepted armed spawned) :
    Chronicle (history ++ [.accepted accepted]) delivered (accepted + 1) armed spawned := by
  have unmarked : ∀ number, (Event.accepted accepted : Event R N).marks number = false :=
    fun _ => rfl
  constructor
  · rw [deliveredJobs_append_of_none (by simp [Event.deliveredJob])]
    exact chronicle.inOrder
  · rw [acceptedJobs, List.filterMap_append, ← acceptedJobs, chronicle.accepted,
      List.range_succ]
    rfl
  · exact chronicle.attributed_snoc rfl unmarked
  · exact chronicle.latest_snoc rfl
  · intro number beyond
    simpa using chronicle.unreset number beyond
  · intro number beyond
    exact (chronicle.fresh number beyond).snoc (unmarked number)

/-- Resetting the flag for the next job. -/
theorem Chronicle.reset (chronicle : Chronicle history delivered accepted armed spawned) :
    Chronicle (history ++ [.reset armed]) delivered accepted (armed + 1) spawned := by
  have unmarked : ∀ number, (Event.reset armed : Event R N).marks number = false := fun _ => rfl
  constructor
  · rw [deliveredJobs_append_of_none (by simp [Event.deliveredJob])]
    exact chronicle.inOrder
  · rw [acceptedJobs_append_of_none (by simp [Event.acceptedJob])]
    exact chronicle.accepted
  · exact chronicle.attributed_snoc rfl unmarked
  · exact chronicle.latest_snoc rfl
  · intro number beyond
    have different : number ≠ armed := by omega
    simpa [different] using chronicle.unreset number (by omega)
  · intro number beyond
    exact (chronicle.fresh number beyond).snoc (unmarked number)

/-- Delivering the outcome of the only job on its way. -/
theorem Chronicle.deliver {outcome : Outcome R}
    (chronicle : Chronicle history delivered (delivered + 1) armed spawned)
    (attributed : Attributed delivered outcome history) :
    Chronicle (history ++ [.delivered delivered outcome]) (delivered + 1) (delivered + 1) armed
      spawned := by
  have unmarked : ∀ number, (Event.delivered delivered outcome : Event R N).marks number = false :=
    fun _ => rfl
  constructor
  · rw [deliveredJobs, List.filterMap_append, ← deliveredJobs, chronicle.inOrder,
      List.range_succ]
    rfl
  · rw [acceptedJobs_append_of_none (by simp [Event.acceptedJob])]
    exact chronicle.accepted
  · intro number other present
    rcases List.mem_append.mp present with before | now
    · exact (chronicle.attributed number other before).snoc (unmarked number)
    · have same := List.mem_singleton.mp now
      rw [Event.delivered.injEq] at same
      rcases same with ⟨rfl, rfl⟩
      exact attributed.snoc (unmarked number)
  · apply chronicle.latest.snoc
    rintro number other same
    rw [Event.delivered.injEq] at same
    rcases same with ⟨rfl, rfl⟩
    rw [chronicle.accepted, List.range_succ]
    simp
  · intro number beyond
    simpa using chronicle.unreset number beyond
  · intro number beyond
    exact (chronicle.fresh number beyond).snoc (unmarked number)

theorem Chronicle.spawn (chronicle : Chronicle history delivered accepted armed spawned)
    {more : Nat} (later : spawned ≤ more) :
    Chronicle history delivered accepted armed more :=
  { chronicle with
    fresh := fun number beyond => chronicle.fresh number (Nat.le_trans later beyond) }

end Chronicle

/-- Where the job after the first `delivered` ones stands. -/
inductive Phase (runner : Runner S J H R N) (delivered : Nat) : Prop
  /-- It has not been accepted. -/
  | idle (count : runner.workers.length = delivered) (calm : runner.loop.starting = false)
      (empty : runner.queue = [])
  /-- It is being started. -/
  | starting (count : runner.workers.length = delivered) (start : runner.loop.starting = true)
      (empty : runner.queue = [])
      (channel : runner.loop.subscribed = true → runner.rx = some delivered)
      (armed : runner.loop.wasReset = true → .reset delivered ∈ runner.history ∧
        (runner.interrupted = true ↔ StoredSinceReset delivered runner.history))
  /-- Its worker has not sent the outcome. -/
  | busy (worker : Worker J R) (count : runner.workers.length = delivered + 1)
      (calm : runner.loop.starting = false) (channel : runner.rx = some delivered)
      (found : runner.workers[delivered]? = some worker) (unsent : worker.stage ≠ .done)
      (empty : runner.queue = [])
      (law : StageLaw runner.interrupted runner.history delivered worker.stage)
  /-- Its outcome waits in the channel. -/
  | sent (worker : Worker J R) (outcome : Outcome R)
      (count : runner.workers.length = delivered + 1) (calm : runner.loop.starting = false)
      (channel : runner.rx = some delivered)
      (found : runner.workers[delivered]? = some worker) (done : worker.stage = .done)
      (queued : runner.queue = [(delivered, outcome)])
      (attributed : Attributed delivered outcome runner.history)
  /-- The runner was taken apart. -/
  | closed (recovered : Bool) (ended : runner.loop = .finished recovered)

/-- What holds between two steps. -/
structure Delivering (runner : Runner S J H R N) (delivered : Nat) : Prop where
  chronicle : Chronicle runner.history delivered
    (runner.workers.length + if runner.loop.starting then 1 else 0)
    (runner.workers.length + if runner.loop.wasReset then 1 else 0) runner.workers.length
  /-- The workers of the delivered jobs are done. -/
  settled : ∀ (number : Nat) (worker : Worker J R), runner.workers[number]? = some worker →
    number < delivered → worker.stage = .done
  phase : Phase runner delivered

variable {delivered : Nat}

/-! ## Steps of a worker -/

theorem interim_of_ownedBy {number : Nat} {event : Event R N} {low high : Nat}
    (own : event.ownedBy number = true) (least : low ≤ number) (below : number < high) :
    Interim low high event := by
  cases event <;> simp [Event.ownedBy] at own
  all_goals
    subst own
    constructor <;> simp [Event.acceptedJob, Event.deliveredJob, Event.marks, least, below]

/-- A step of a worker keeps the invariant. -/
theorem Delivering.acted {number : Nat} {worker : Worker J R} {stage : WorkerStage J R}
    {events : List (Event R N)} (delivering : Delivering runner delivered)
    (found : runner.workers[number]? = some worker) (moving : worker.stage ≠ .done)
    (acted : Acted runner next number worker stage events) : Delivering next delivered := by
  have inside : number < runner.workers.length := (List.getElem?_eq_some_iff.mp found).1
  have unsettled : delivered ≤ number := by
    by_contra earlier
    exact moving (delivering.settled number worker found (Nat.lt_of_not_le earlier))
  have length : next.workers.length = runner.workers.length := by
    rw [acted.workers, List.length_set]
  have self : next.workers[number]? = some { worker with stage := stage } := by
    rw [acted.workers, List.getElem?_set_self inside]
  constructor
  · rw [acted.history, length, acted.loop]
    apply delivering.chronicle.append
    intro event present
    exact interim_of_ownedBy (acted.own event present) unsettled inside
  · intro other entry foundOther earlier
    have different : number ≠ other := by omega
    rw [acted.workers, List.getElem?_set_ne different] at foundOther
    exact delivering.settled other entry foundOther earlier
  · rcases delivering.phase with ⟨count⟩ | ⟨count⟩ | ⟨entry, count, calm, channel, foundEntry,
      unsent, empty, law⟩ | ⟨entry, outcome, count, calm, channel, foundEntry, done⟩ |
      ⟨recovered, ended⟩
    · omega
    · omega
    · have current : number = delivered := by omega
      subst current
      have same : entry = worker := Option.some.inj (foundEntry.symm.trans found)
      subst same
      rcases acted.sent with ⟨running, queue⟩ | ⟨outcome, sending, last, none_, queue⟩
      · exact .busy _ (length.trans count) (acted.loop ▸ calm) (acted.rx.trans channel) self
          running (queue.trans empty) (acted.law law)
      · rw [if_pos channel, empty, List.nil_append] at queue
        rw [sending] at law
        have attributed : Attributed number outcome next.history := by
          rw [acted.history, none_, List.append_nil]
          exact law
        exact .sent _ outcome (length.trans count) (acted.loop ▸ calm) (acted.rx.trans channel)
          self last queue attributed
    · have current : number = delivered := by omega
      subst current
      have same : entry = worker := Option.some.inj (foundEntry.symm.trans found)
      subst same
      exact absurd done moving
    · exact .closed recovered (acted.loop.trans ended)

/-! ## Steps of the event loop -/

theorem Delivering.passed (events : List (Event R N)) (delivering : Delivering runner delivered)
    (open_ : ∀ recovered, runner.loop ≠ .finished recovered)
    (passed : Passed runner next events) : Delivering next delivered := by
  have unmarked : ∀ number, ∀ event ∈ events, event.marks number = false := by
    intro number event present
    exact (passed.neutral event present).2.unmarked (Or.inr (Nat.zero_le number))
  constructor
  · rw [passed.history, passed.workers, passed.starting, passed.wasReset]
    apply delivering.chronicle.append
    intro event present
    exact (passed.neutral event present).2.widen _ _
  · rw [passed.workers]
    exact delivering.settled
  · rcases delivering.phase with ⟨count, calm, empty⟩ | ⟨count, start, empty, channel, armed⟩ |
      ⟨worker, count, calm, channel, found, unsent, empty, law⟩ |
      ⟨worker, outcome, count, calm, channel, found, done, queued, attributed⟩ |
      ⟨recovered, ended⟩
    · exact .idle (by rw [passed.workers, count]) (passed.starting.trans calm)
        (passed.queue.trans empty)
    · refine .starting (by rw [passed.workers, count]) (passed.starting.trans start)
        (passed.queue.trans empty) ?_ ?_
      · intro subscribed
        rw [passed.rx]
        exact channel (passed.subscribed subscribed)
      · intro wasReset
        rw [passed.wasReset] at wasReset
        rw [passed.history, passed.interrupted]
        refine ⟨List.mem_append_left _ (armed wasReset).1, (armed wasReset).2.trans ?_⟩
        refine append_of_snoc (fun history => StoredSinceReset delivered runner.history ↔
          StoredSinceReset delivered history) (fun event => event ≠ .stored) ?_ Iff.rfl
          fun event present => (passed.neutral event present).1
        rintro history event same other
        exact same.trans (storedSinceReset_snoc_of_ne other).symm
    · refine .busy worker (by rw [passed.workers, count]) (passed.starting.trans calm)
        (passed.rx.trans channel) (by rw [passed.workers, found]) unsent
        (passed.queue.trans empty) ?_
      rw [passed.history, passed.interrupted]
      refine append_of_snoc (fun history => StageLaw runner.interrupted history delivered
        worker.stage) (fun event => event.marks delivered = false ∧ event ≠ .stored) ?_ law ?_
      · rintro history event law ⟨unmarked, other⟩
        exact law.snoc unmarked other
      · intro event present
        exact ⟨unmarked delivered event present, (passed.neutral event present).1⟩
    · refine .sent worker outcome (by rw [passed.workers, count]) (passed.starting.trans calm)
        (passed.rx.trans channel) (by rw [passed.workers, found]) done
        (passed.queue.trans queued) ?_
      rw [passed.history]
      exact append_of_snoc (Attributed delivered outcome)
        (fun event => event.marks delivered = false) Attributed.snoc attributed
        (unmarked delivered)
    · exact absurd ended (open_ recovered)

/-- Receiving an outcome delivers that of the job on its way. -/
theorem Delivering.receive (delivering : Delivering runner delivered)
    (calm : runner.loop.starting = false) (single : runner.loop.wasReset = false)
    (open_ : ∀ recovered, runner.loop ≠ .finished recovered)
    (received : runner.receive = some next) : ∃ delivered, Delivering next delivered := by
  unfold Runner.receive at received
  split at received
  · contradiction
  · rename_i number outcome rest queueEq
    cases received
    rcases delivering.phase with ⟨_, _, empty⟩ | ⟨_, start⟩ | ⟨_, _, _, _, _, _, empty⟩ |
      ⟨worker, sent, count, _, channel, found, done, queued, attributed⟩ | ⟨recovered, ended⟩
    · rw [empty] at queueEq
      contradiction
    · rw [calm] at start
      contradiction
    · rw [empty] at queueEq
      contradiction
    · rw [queued] at queueEq
      simp only [List.cons.injEq, Prod.mk.injEq] at queueEq
      rcases queueEq with ⟨⟨rfl, rfl⟩, rfl⟩
      have chronicle := delivering.chronicle
      simp only [calm, single, count, Bool.false_eq_true, if_false, Nat.add_zero] at chronicle
      have calmNext : (mapWorkerResult sent : LoopStage J H).starting = false := by
        cases sent <;> rfl
      have singleNext : (mapWorkerResult sent : LoopStage J H).wasReset = false := by
        cases sent <;> rfl
      refine ⟨delivered + 1, ?_, ?_, .idle count calmNext rfl⟩
      · simp only [record_history, record_workers, record_loop, goTo_history, goTo_workers,
          goTo_loop, calmNext, singleNext, count, Bool.false_eq_true, if_false, Nat.add_zero]
        exact chronicle.deliver attributed
      · intro other entry foundOther earlier
        by_cases own : other = delivered
        · subst own
          have same : entry = worker := Option.some.inj (foundOther.symm.trans found)
          rw [same, done]
        · exact delivering.settled other entry foundOther (by omega)
    · exact absurd ended (open_ recovered)

/-- The event loop has received the outcome of every job it started. -/
def Received (runner : Runner S J H R N) : Prop :=
  deliveredJobs runner.history = acceptedJobs runner.history

/-- A start is tried only while a job is in flight, or after the outcome of the
job before has been received. -/
def Prompt (runner : Runner S J H R N) (label : RunnerLabel J C) : Prop :=
  ∀ job onInterrupt, label = .loop (.start job onInterrupt) →
    runner.inFlight = true ∨ runner.Received

instance (runner : Runner S J H R N) (label : RunnerLabel J C) :
    Decidable (Prompt runner label) :=
  match label with
  | .loop (.start job onInterrupt) =>
      decidable_of_iff (runner.inFlight = true ∨
          deliveredJobs runner.history = acceptedJobs runner.history)
        ⟨fun prompt _ _ _ => prompt, fun prompt => prompt job onInterrupt rfl⟩
  | .loop .takeStopReason | .loop .waitStopReason | .loop .requestInterrupt
  | .loop .onInterrupt | .loop .tryLock | .loop .lock | .loop (.serve _) | .loop (.access _)
  | .loop .intoBackend | .loop .giveUp | .loop .proceed | .worker _ _ => isTrue (by simp [Prompt])

/-- Accepting a job. -/
theorem Delivering.accept {job onInterrupt : J} (delivering : Delivering runner delivered)
    (at_ : runner.loop = .ready) (received : runner.Received) :
    Delivering (({ runner with replayRunning := true }.goTo
      (.resetting job onInterrupt)).record [.accepted runner.workers.length]) delivered := by
  have chronicle := delivering.chronicle
  simp only [at_, LoopStage.starting, LoopStage.wasReset, Bool.false_eq_true, if_false,
    Nat.add_zero] at chronicle
  have count : runner.workers.length = delivered := by
    have lengths := congrArg List.length received
    rw [chronicle.inOrder, chronicle.accepted, List.length_range, List.length_range] at lengths
    exact lengths.symm
  constructor
  · exact chronicle.accept
  · exact delivering.settled
  · rcases delivering.phase with ⟨_, _, empty⟩ | ⟨_, start⟩ | ⟨_, more⟩ | ⟨_, _, more⟩ |
      ⟨recovered, ended⟩
    · exact .starting count rfl empty (by simp [LoopStage.subscribed])
        (by simp [LoopStage.wasReset])
    · simp [at_, LoopStage.starting] at start
    · omega
    · omega
    · simp [at_] at ended

/-- Resetting the flag. -/
theorem Delivering.reset {job onInterrupt : J} (delivering : Delivering runner delivered)
    (at_ : runner.loop = .resetting job onInterrupt) :
    Delivering (({ runner with interrupted := false }.goTo
      (.lockingResume job onInterrupt)).record [.reset runner.workers.length]) delivered := by
  have chronicle := delivering.chronicle
  simp only [at_, LoopStage.starting, LoopStage.wasReset, Bool.false_eq_true, if_false,
    if_true, Nat.add_zero] at chronicle
  constructor
  · exact chronicle.reset
  · exact delivering.settled
  · rcases delivering.phase with ⟨_, calm⟩ | ⟨count, start, empty, channel, armed⟩ |
      ⟨_, _, calm⟩ | ⟨_, _, _, calm⟩ | ⟨recovered, ended⟩
    · simp [at_, LoopStage.starting] at calm
    · refine .starting count rfl empty (by simp [LoopStage.subscribed]) ?_
      rintro _
      subst count
      have before : ¬ StoredSinceReset runner.workers.length runner.history := by
        intro stored
        exact chronicle.unreset _ (Nat.le_refl _) (stored.subset (by simp))
      simp [storedSinceReset_snoc, before]
    · simp [at_, LoopStage.starting] at calm
    · simp [at_, LoopStage.starting] at calm
    · simp [at_] at ended

/-- Swapping in the receiver. -/
theorem Delivering.swapReceiver {job onInterrupt : J} (delivering : Delivering runner delivered)
    (at_ : runner.loop = .swappingReceiver job onInterrupt) :
    Delivering ({ runner with rx := some runner.workers.length, queue := [] }.goTo
      (.cloning job onInterrupt)) delivered := by
  have chronicle := delivering.chronicle
  simp only [at_] at chronicle
  constructor
  · exact chronicle
  · exact delivering.settled
  · rcases delivering.phase with ⟨_, calm⟩ | ⟨count, start, empty, channel, armed⟩ |
      ⟨_, _, calm⟩ | ⟨_, _, _, calm⟩ | ⟨recovered, ended⟩
    · simp [at_, LoopStage.starting] at calm
    · refine .starting count rfl rfl ?_ ?_
      · intro _
        exact congrArg some count
      · intro _
        exact armed (by rw [at_]; rfl)
    · simp [at_, LoopStage.starting] at calm
    · simp [at_, LoopStage.starting] at calm
    · simp [at_] at ended

/-- Spawning the worker. -/
theorem Delivering.spawn {job onInterrupt : J} (delivering : Delivering runner delivered)
    (at_ : runner.loop = .spawning job onInterrupt) :
    Delivering ({ runner with
      workers := runner.workers ++ [Worker.mk onInterrupt (.locking job)] }.goTo .ready)
      delivered := by
  have chronicle := delivering.chronicle
  simp only [at_, LoopStage.starting, LoopStage.wasReset, if_true] at chronicle
  rcases delivering.phase with ⟨_, calm⟩ | ⟨count, start, empty, channel, armed⟩ |
    ⟨_, _, calm⟩ | ⟨_, _, _, calm⟩ | ⟨recovered, ended⟩
  · simp [at_, LoopStage.starting] at calm
  · have rx := channel (by rw [at_]; rfl)
    have flag := armed (by rw [at_]; rfl)
    have silent := chronicle.fresh delivered (Nat.le_of_eq count)
    constructor
    · simp only [goTo_history, goTo_workers, goTo_loop, List.length_append, List.length_singleton]
      exact chronicle.spawn (Nat.le_succ _)
    · intro number worker found earlier
      simp only [goTo_workers] at found
      rw [List.getElem?_append_left (by omega)] at found
      exact delivering.settled number worker found earlier
    · refine .busy (Worker.mk onInterrupt (.locking job)) ?_ rfl rx ?_ (by simp) empty
        ⟨silent, flag⟩
      · simp [count]
      · simp [← count]
  · simp [at_, LoopStage.starting] at calm
  · simp [at_, LoopStage.starting] at calm
  · simp [at_] at ended

/-- Storing the flag. -/
theorem Delivering.store {requester : Requester} {stage : LoopStage J H}
    (delivering : Delivering runner delivered) (at_ : runner.loop = .storing requester)
    (calmNext : stage.starting = false) (singleNext : stage.wasReset = false) :
    Delivering (({ runner with interrupted := true }.goTo stage).record [.stored]) delivered := by
  have chronicle := delivering.chronicle
  simp only [at_, LoopStage.starting, LoopStage.wasReset] at chronicle
  have unmarked : (Event.stored : Event R N).marks delivered = false := rfl
  constructor
  · simp only [record_history, record_workers, record_loop, goTo_history, goTo_workers,
      goTo_loop, calmNext, singleNext]
    apply chronicle.append
    intro event present
    rw [List.mem_singleton.mp present]
    constructor <;> simp [Event.acceptedJob, Event.deliveredJob, Event.marks]
  · exact delivering.settled
  · rcases delivering.phase with ⟨count, calm, empty⟩ | ⟨_, start⟩ |
      ⟨worker, count, calm, channel, found, unsent, empty, law⟩ |
      ⟨worker, outcome, count, calm, channel, found, done, queued, attributed⟩ |
      ⟨recovered, ended⟩
    · exact .idle count calmNext empty
    · simp [at_, LoopStage.starting] at start
    · exact .busy worker count calmNext channel found unsent empty law.stored
    · exact .sent worker outcome count calmNext channel found done queued
        (attributed.snoc unmarked)
    · simp [at_] at ended

/-- A step of the event loop keeps the invariant. -/
theorem Delivering.turned {action : LoopAction J C} (delivering : Delivering runner delivered)
    (prompt : Prompt runner (.loop action : RunnerLabel J C))
    (turned : Turned load runner next action) : ∃ delivered, Delivering next delivered := by
  cases turned with
  | passed events open_ passed => exact ⟨delivered, delivering.passed events open_ passed⟩
  | fired handle requester rest shared notes at_ _ next_eq =>
      subst next_eq
      exact ⟨delivered, delivering.passed _ (by simp [at_]) (passed_fired at_)⟩
  | accessed choice at_ next_eq =>
      subst next_eq
      refine ⟨delivered, delivering.passed
        ((load.access choice runner.shared).2.map Event.loopNote) (by simp [at_]) ?_⟩
      constructor <;> simp [interim_loopNote]
  | accepted job onInterrupt at_ idle next_eq =>
      subst next_eq
      rcases prompt job onInterrupt rfl with flying | received
      · change runner.replayRunning = true at flying
        rw [idle] at flying
        contradiction
      · exact ⟨delivered, delivering.accept at_ received⟩
  | reset job onInterrupt at_ next_eq =>
      subst next_eq
      exact ⟨delivered, delivering.reset at_⟩
  | swapped job onInterrupt at_ next_eq =>
      subst next_eq
      exact ⟨delivered, delivering.swapReceiver at_⟩
  | spawned job onInterrupt at_ next_eq =>
      subst next_eq
      exact ⟨delivered, delivering.spawn at_⟩
  | stored requester stage at_ calm single _ _ next_eq =>
      subst next_eq
      exact ⟨delivered, delivering.store at_ calm single⟩
  | received calm single open_ received => exact delivering.receive calm single open_ received
  | closed at_ next_eq =>
      subst next_eq
      have chronicle := delivering.chronicle
      simp only [at_] at chronicle
      exact ⟨delivered, chronicle, delivering.settled, .closed _ rfl⟩

/-- Every prompt step keeps the invariant. -/
theorem Delivering.step {label : RunnerLabel J C} (delivering : Delivering runner delivered)
    (prompt : Prompt runner label) (stepEq : Runner.step load runner label = some next) :
    ∃ delivered, Delivering next delivered := by
  cases label with
  | worker number choice =>
      simp only [Runner.step] at stepEq
      split at stepEq
      · contradiction
      · rename_i worker found
        have moving : worker.stage ≠ .done := by
          intro done
          simp [workerStep, done] at stepEq
        obtain ⟨stage, events, acted⟩ := acted_workerStep stepEq
        exact ⟨delivered, delivering.acted found moving acted⟩
  | loop action => exact delivering.turned prompt (turned_loopStep stepEq)

/-- How far a worker still has to go, its closures apart. -/
def remaining : WorkerStage J R → Nat
  | .locking _ => 8
  | .job _ => 7
  | .swapping _ => 6
  | .onInterrupt _ => 5
  | .unlocking _ => 4
  | .dropping _ => 3
  | .clearing _ => 2
  | .sending _ => 1
  | .done => 0

/-- The worker is inside a closure that cannot step. -/
def Stuck (load : Workload S J H R N C) (runner : Runner S J H R N) (worker : Worker J R) :
    Prop :=
  ∃ which closure, worker.stage = insideClosure which closure ∧
    ∀ choice, load.run choice closure runner.shared = none

theorem Delivering.once (delivering : Delivering runner delivered) :
    acceptedJobs runner.history = List.range delivered ∨
      acceptedJobs runner.history = List.range (delivered + 1) ∨
      ∃ recovered, runner.loop = .finished recovered := by
  have accepted := delivering.chronicle.accepted
  rcases delivering.phase with ⟨count, calm⟩ | ⟨count, start⟩ | ⟨_, count, calm⟩ |
    ⟨_, _, count, calm⟩ | ⟨recovered, ended⟩
  · left
    simpa [count, calm] using accepted
  · right
    left
    simpa [count, start] using accepted
  · right
    left
    simpa [count, calm] using accepted
  · right
    left
    simpa [count, calm] using accepted
  · right
    right
    exact ⟨recovered, ended⟩

/-- While the event loop holds the backend, its next step is free. -/
theorem isSome_of_holdsGuard (holds : runner.loop.holdsGuard = true) :
    (runner.loopStep load .proceed).isSome := by
  cases at_ : runner.loop <;> simp_all [LoopStage.holdsGuard, Runner.loopStep]

/-- A closure that is not stuck steps. -/
theorem progress_closureStep {number : Nat} {worker : Worker J R} (which : Closure) {closure : J}
    (inside : worker.stage = insideClosure which closure) :
    (∃ choice next, runner.closureStep load number worker which closure choice = some next) ∨
      Stuck load runner worker := by
  by_cases stuck : ∀ choice, load.run choice closure runner.shared = none
  · exact Or.inr ⟨which, closure, inside, stuck⟩
  · left
    rw [not_forall] at stuck
    obtain ⟨choice, moves⟩ := stuck
    refine ⟨choice, ?_⟩
    unfold closureStep
    split
    · contradiction
    · exact ⟨_, rfl⟩
    · exact ⟨_, rfl⟩

theorem Exclusive.progress [Inhabited C] (exclusive : Exclusive runner) {number : Nat}
    {worker : Worker J R} (found : runner.workers[number]? = some worker)
    (unsent : worker.stage ≠ .done) :
    (∃ choice next, runner.workerStep load number worker choice = some next) ∨
      (runner.loop.holdsGuard = true ∧ (runner.loopStep load .proceed).isSome) ∨
      Stuck load runner worker := by
  cases at_ : worker.stage with
  | locking job =>
      cases owner : runner.backendOwner with
      | none =>
          left
          simp [workerStep, at_, owner]
      | some holder =>
          cases holder with
          | eventLoop =>
              have holds := exclusive.loopGuard.mpr owner
              exact Or.inr (Or.inl ⟨holds, isSome_of_holdsGuard holds⟩)
          | worker other =>
              -- Two workers in flight would both be the latest one.
              have inside := exclusive.spawned other owner
              have foundOther := List.getElem?_eq_getElem inside
              have holds := (exclusive.workerGuard other _ foundOther).mpr owner
              have flying := inFlight_of_holdsBackend (holdsBackend_of_holdsGuard holds)
              have latest := (exclusive.alone other _ foundOther flying).1
              have mine := (exclusive.alone number worker found (by rw [at_]; rfl)).1
              have same : other = number := by omega
              subst same
              rw [found] at foundOther
              rw [← Option.some.inj foundOther, at_] at holds
              cases holds
  | job closure =>
      have moves : (∃ choice next,
          runner.closureStep load number worker .job closure choice = some next) ∨
          Stuck load runner worker := progress_closureStep .job at_
      rcases moves with ⟨choice, next, stepEq⟩ | stuck
      · left
        refine ⟨choice, next, ?_⟩
        simpa [workerStep, at_] using stepEq
      · exact Or.inr (Or.inr stuck)
  | onInterrupt closure =>
      have moves : (∃ choice next,
          runner.closureStep load number worker .onInterrupt closure choice = some next) ∨
          Stuck load runner worker := progress_closureStep .onInterrupt at_
      rcases moves with ⟨choice, next, stepEq⟩ | stuck
      · left
        refine ⟨choice, next, ?_⟩
        simpa [workerStep, at_] using stepEq
      · exact Or.inr (Or.inr stuck)
  | swapping result =>
      left
      simp [workerStep, at_]
  | unlocking outcome =>
      left
      simp [workerStep, at_]
  | dropping outcome =>
      left
      simp [workerStep, at_]
  | clearing outcome =>
      left
      simp [workerStep, at_]
  | sending outcome =>
      left
      simp [workerStep, at_]
  | done => exact absurd at_ unsent

end Runner

end TtdGdbserver.Gdb
