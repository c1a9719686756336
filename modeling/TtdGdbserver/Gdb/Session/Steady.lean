import TtdGdbserver.Gdb.Session.Jobs

/-!
# The end state and what the client knows

While no exit stop is lost, the end state is up only if the client has been
told of the process exit, or is about to be.  A reply of the real exit is on
its way only after the client has been told.
-/

namespace TtdGdbserver.Gdb

open TtdGdbserver.Transition
open TtdGdbserver.Target

variable {β ε : Type} {target : DebugTarget β ε}

/-! ## Stops on their way -/

/-- The stop that the latest job has yet to deliver after it left its flight. -/
def Runner.pendingStop (runner : TargetRunner β) : Option MultiThreadStopReason :=
  match runner.queue, runner.workers.getLast? with
  | (_, .ok stop) :: _, _ => some stop
  | [], some ⟨_, .sending (.ok stop)⟩ => some stop
  | _, _ => none

/-- The exit stop of the latest job is on its way. -/
inductive Carrying (runner : TargetRunner β) : Prop
  | worker (number : Nat) (worker : Worker Job MultiThreadStopReason)
      (latest : number + 1 = runner.workers.length) (calm : runner.loop.starting = false)
      (channel : runner.rx = some number) (found : runner.workers[number]? = some worker)
      (reported : ReportedExit number runner.history) (stop : worker.stage.exitStop = true)
      (empty : runner.queue = [])
  | queued (number : Nat) (tid : Tid) (calm : runner.loop.starting = false)
      (channel : runner.rx = some number) (reported : ReportedExit number runner.history)
      (queue : runner.queue = [(number, .ok (.signalWithThread tid .sigKill))])

/-- A reply of the real exit is on its way. -/
inductive Replying (runner : TargetRunner β) : Prop
  | starting (onInterrupt : Job) (closures : runner.loop.closures = some (.exiting, onInterrupt))
  | worker (number : Nat) (worker : Worker Job MultiThreadStopReason)
      (latest : number + 1 = runner.workers.length) (calm : runner.loop.starting = false)
      (found : runner.workers[number]? = some worker) (reply : worker.stage.exitReply = true)
  | queued (number : Nat) (code : UInt8) (calm : runner.loop.starting = false)
      (present : (number, .ok (.exited code)) ∈ runner.queue)

/-- The closures that `spawn_replay` starts a worker with. -/
structure Launch (job onInterrupt : Job) : Prop where
  start : job.isStart = true
  handler : onInterrupt.isHandler = true
  reply : onInterrupt = .exiting → job = .exiting

/-- What holds of the runner between two steps of a session. -/
structure Steady (runner : TargetRunner β) : Prop where
  exclusive : runner.Exclusive
  channeled : runner.Channeled
  laws : ∀ (number : Nat) (worker : Worker Job MultiThreadStopReason),
    runner.workers[number]? = some worker → WorkerLaw number runner.history worker
  launches : ∀ job onInterrupt, runner.loop.closures = some (job, onInterrupt) →
    Launch job onInterrupt
  /-- The end state is known to the client, or about to be. -/
  told : runner.shared.endState = true → ExitAnnounced runner.history ∨ Carrying runner
  replies : Replying runner → ExitAnnounced runner.history
  twoStage : TwoStage runner.history

/-! ## The history grows -/

section History

variable {history events : List SessionEvent}

theorem ExitAnnounced.append (announced : ExitAnnounced history)
    (stays : ∀ event ∈ events, event.leavesExit = false) : ExitAnnounced (history ++ events) := by
  obtain ⟨before, number, tid, after, rfl, reported, none_⟩ := announced
  refine ⟨before, number, tid, after ++ events, by simp, reported, ?_⟩
  intro event present
  rcases List.mem_append.mp present with earlier | now
  · exact none_ event earlier
  · exact stays event now

theorem exitAnnounced_delivered {number : Nat} {tid : Tid}
    (reported : ReportedExit number history) :
    ExitAnnounced (history ++ [.delivered number (.ok (.signalWithThread tid .sigKill))]) :=
  ⟨history, number, tid, [], rfl, reported, by simp⟩

theorem twoStage_nil : TwoStage [] :=
  follows_nil

theorem TwoStage.append (twoStage : TwoStage history)
    (undelivered : ∀ event ∈ events, event.deliveredJob = none) :
    TwoStage (history ++ events) := by
  refine append_of_snoc TwoStage (fun event => event.deliveredJob = none) ?_ twoStage undelivered
  rintro history event twoStage none_
  refine follows_snoc.mpr ⟨twoStage, ?_⟩
  rintro number code rfl
  contradiction

theorem TwoStage.deliver {number : Nat} {outcome : Outcome MultiThreadStopReason}
    (twoStage : TwoStage history)
    (announced : ∀ code, outcome = .ok (.exited code) → ExitAnnounced history) :
    TwoStage (history ++ [.delivered number outcome]) := by
  refine follows_snoc.mpr ⟨twoStage, ?_⟩
  rintro other code same
  rw [Event.delivered.injEq] at same
  exact announced code same.2

end History

variable {runner next : TargetRunner β} {number : Nat}
variable {worker : Worker Job MultiThreadStopReason}

theorem steady_new (backend : β) : Steady (Session.new backend).runner := by
  constructor
  · exact Runner.exclusive_new _
  · exact Runner.channeled_new _
  · simp [Session.new, Runner.new]
  · simp [Session.new, Runner.new, LoopStage.closures]
  · simp [Session.new, Runner.new]
  · rintro (⟨_, closures⟩ | ⟨_, _, _, _, found⟩ | ⟨_, _, _, present⟩)
    · simp [Session.new, Runner.new, LoopStage.closures] at closures
    · simp [Session.new, Runner.new] at found
    · simp [Session.new, Runner.new] at present
  · exact twoStage_nil

/-- What a worker leaves in the history is neither delivered nor a command. -/
theorem quiet_of_ownedBy {event : SessionEvent} (own : event.ownedBy number = true) :
    event.leavesExit = false ∧ event.deliveredJob = none := by
  cases event <;> simp_all [Event.ownedBy, Event.leavesExit, Event.deliveredJob]

/-! ## Steps of a worker -/

section Workers

variable {stage : WorkerStage Job MultiThreadStopReason} {events : List SessionEvent}

/-- The exit stop on its way stays on its way, unless it is replaced. -/
theorem Carrying.acted (carrying : Carrying runner)
    (found : runner.workers[number]? = some worker) (moving : worker.stage ≠ .done)
    (channeled : runner.Channeled)
    (kept : ∀ result : MultiThreadStopReason, worker.stage = .swapping result →
      result.isKill = true → runner.interrupted = false)
    (acted : Runner.Acted runner next number worker stage events)
    (worked : Worked runner next number worker stage) : Carrying next := by
  have inside : number < runner.workers.length := (List.getElem?_eq_some_iff.mp found).1
  have self : next.workers[number]? = some { worker with stage := stage } := by
    rw [acted.workers, List.getElem?_set_self inside]
  have length : next.workers.length = runner.workers.length := by
    rw [acted.workers, List.length_set]
  cases carrying with
  | worker other carrier latest calm channel foundOther reported stop empty =>
      have still : ReportedExit other next.history := acted.history ▸ reported.mono
      by_cases own : number = other
      · subst own
        have same : carrier = worker := Option.some.inj (foundOther.symm.trans found)
        subst same
        rcases acted.sent with ⟨unsent, queue⟩ | ⟨outcome, sending, done, _, queue⟩
        · rcases worked.stop stop with ⟨result, swapping, flag⟩ | stopNext | done
          · have kill : result.isKill = true := by
              rw [swapping] at stop
              exact stop
            rw [kept result swapping kill] at flag
            contradiction
          · exact .worker number _ (length.symm ▸ latest) (acted.loop ▸ calm)
              (acted.rx.trans channel) self still stopNext (queue.trans empty)
          · exact absurd done unsent
        · rw [sending] at stop
          rw [if_pos channel, empty, List.nil_append] at queue
          cases outcome with
          | panic panicked => simp [WorkerStage.exitStop, WorkerStage.carries] at stop
          | ok result =>
              have kill : result.isKill = true := stop
              cases result with
              | signalWithThread tid signal =>
                  cases signal <;> simp [MultiThreadStopReason.isKill] at kill
                  exact .queued number tid (acted.loop ▸ calm) (acted.rx.trans channel) still queue
              | _ => simp [MultiThreadStopReason.isKill] at kill
      · have queue : next.queue = runner.queue := by
          rcases acted.sent with ⟨_, queue⟩ | ⟨outcome, _, _, _, queue⟩
          · exact queue
          · rw [queue, if_neg (by simpa [channel] using Ne.symm own)]
        refine .worker other carrier (length.symm ▸ latest) (acted.loop ▸ calm)
          (acted.rx.trans channel) ?_ still stop (queue.trans empty)
        rw [acted.workers, List.getElem?_set_ne own]
        exact foundOther
  | queued other tid calm channel reported queue =>
      have still : ReportedExit other next.history := acted.history ▸ reported.mono
      refine .queued other tid (acted.loop ▸ calm) (acted.rx.trans channel) still ?_
      rcases acted.sent with ⟨_, same⟩ | ⟨outcome, sending, done, _, sent⟩
      · exact same.trans queue
      · have different : number ≠ other := by
          rintro rfl
          have empty := channeled.empty found moving channel
          rw [queue] at empty
          contradiction
        rw [sent, if_neg (by simpa [channel] using Ne.symm different)]
        exact queue

/-- A worker that sets the end state carries the exit stop. -/
theorem carrying_of_raised (exclusive : runner.Exclusive) (channeled : runner.Channeled)
    (found : runner.workers[number]? = some worker)
    (acted : Runner.Acted runner next number worker stage events)
    (flying : worker.stage.inFlight = true) (stop : stage.exitStop = true)
    (reported : ReportedExit number next.history) : Carrying next := by
  have inside : number < runner.workers.length := (List.getElem?_eq_some_iff.mp found).1
  obtain ⟨latest, calm, channel, empty⟩ := channeled.owns exclusive found flying
  have unsent : stage ≠ .done := by
    rintro rfl
    simp [WorkerStage.exitStop, WorkerStage.carries] at stop
  refine .worker number { worker with stage := stage } ?_ (acted.loop ▸ calm)
    (acted.rx.trans channel) ?_ reported stop ?_
  · rw [acted.workers, List.length_set]
    exact latest
  · rw [acted.workers, List.getElem?_set_self inside]
  · rcases acted.sent with ⟨_, queue⟩ | ⟨_, _, done, _⟩
    · exact queue.trans empty
    · exact absurd done unsent

/-- A worker that answers with the real exit did so before. -/
theorem Replying.of_acted (replying : Replying next)
    (found : runner.workers[number]? = some worker) (channeled : runner.Channeled)
    (acted : Runner.Acted runner next number worker stage events)
    (worked : Worked runner next number worker stage) : Replying runner := by
  have inside : number < runner.workers.length := (List.getElem?_eq_some_iff.mp found).1
  have length : next.workers.length = runner.workers.length := by
    rw [acted.workers, List.length_set]
  cases replying with
  | starting onInterrupt closures => exact .starting onInterrupt (acted.loop ▸ closures)
  | worker other replier latest calm foundOther reply =>
      rw [acted.loop] at calm
      rw [length] at latest
      by_cases own : number = other
      · subst own
        rw [acted.workers, List.getElem?_set_self inside, Option.some.injEq] at foundOther
        subst foundOther
        exact .worker number worker latest calm found (worked.reply reply)
      · rw [acted.workers, List.getElem?_set_ne own] at foundOther
        exact .worker other replier latest calm foundOther reply
  | queued other code calm present =>
      rw [acted.loop] at calm
      rcases acted.sent with ⟨_, queue⟩ | ⟨outcome, sending, _, _, queue⟩
      · rw [queue] at present
        exact .queued other code calm present
      · by_cases owns : runner.rx = some number
        · rw [queue, if_pos owns] at present
          rcases List.mem_append.mp present with earlier | now
          · exact .queued other code calm earlier
          · have same := List.mem_singleton.mp now
            rw [Prod.mk.injEq] at same
            rcases same with ⟨rfl, rfl⟩
            have some_ : runner.workers ≠ [] := by
              rintro none_
              simp [none_] at inside
            obtain ⟨current, rx, latest⟩ := channeled.current calm some_
            have this : current = other := Option.some.inj (rx.symm.trans owns)
            subst this
            exact .worker current worker latest calm found (by rw [sending]; rfl)
        · rw [queue, if_neg owns] at present
          exact .queued other code calm present

/-- A step of a worker that loses no exit stop. -/
theorem Steady.worked (steady : Steady runner) (found : runner.workers[number]? = some worker)
    (moving : worker.stage ≠ .done) (exclusive : next.Exclusive)
    (kept : ∀ result : MultiThreadStopReason, worker.stage = .swapping result →
      result.isKill = true → runner.shared.endState = true → runner.interrupted = false)
    (acted : Runner.Acted runner next number worker stage events)
    (worked : Worked runner next number worker stage) :
    Steady next ∧ (next.shared.endState = true →
      (runner.shared.endState = true → Carrying runner) → Carrying next) := by
  have inside : number < runner.workers.length := (List.getElem?_eq_some_iff.mp found).1
  have quiet := fun event present => quiet_of_ownedBy (acted.own event present)
  have carried : next.shared.endState = true →
      (runner.shared.endState = true → Carrying runner) → Carrying next := by
    intro up carrying
    by_cases before : runner.shared.endState = true
    · exact (carrying before).acted found moving steady.channeled
        (fun result swapping kill => kept result swapping kill before) acted worked
    · rcases worked.raised up with same | ⟨flying, stop, reported⟩
      · exact absurd same before
      · exact carrying_of_raised steady.exclusive steady.channeled found acted flying stop
          reported
  refine ⟨?_, carried⟩
  constructor
  · exact exclusive
  · exact steady.channeled.acted found moving acted
  · intro other entry foundOther
    rw [acted.workers, List.getElem?_set] at foundOther
    split at foundOther
    · rename_i same
      subst same
      rw [Option.some.injEq] at foundOther
      subst foundOther
      exact worked.law
    · rw [acted.history]
      exact (steady.laws other entry foundOther).mono
  · rw [acted.loop]
    exact steady.launches
  · intro up
    rw [acted.history]
    by_cases announced : ExitAnnounced runner.history
    · exact Or.inl (announced.append fun event present => (quiet event present).1)
    · right
      apply carried up
      intro before
      rcases steady.told before with announced' | carrying
      · exact absurd announced' announced
      · exact carrying
  · intro replying
    rw [acted.history]
    exact (steady.replies (replying.of_acted found steady.channeled acted worked)).append
      fun event present => (quiet event present).1
  · rw [acted.history]
    exact steady.twoStage.append fun event present => (quiet event present).2

end Workers

/-! ## Steps of the event loop -/

/-- No call of the event loop touches the end state but those of a command. -/
theorem endState_of_touched {before after : Shared β}
    (touched : Runner.Touched (workload target) before after) :
    after.endState = before.endState := by
  cases touched with
  | same kept => rw [kept]
  | resumed began => rw [began]; rfl
  | served choice use =>
      rw [use]
      cases choice <;> rfl

/-- A step that leaves the workers and the channel alone. -/
structure Aside (runner next : TargetRunner β) (events : List SessionEvent) : Prop where
  workers : next.workers = runner.workers
  rx : next.rx = runner.rx
  queue : next.queue = runner.queue
  history : next.history = runner.history ++ events
  stays : ∀ event ∈ events, event.leavesExit = false ∧ event.deliveredJob = none
  starting : next.loop.starting = runner.loop.starting
  closures : next.loop.closures = runner.loop.closures
  endState : next.shared.endState = true → runner.shared.endState = true

variable {events : List SessionEvent}

theorem Carrying.aside (carrying : Carrying runner) (aside : Aside runner next events) :
    Carrying next := by
  cases carrying with
  | worker other carrier latest calm channel found reported stop empty =>
      exact .worker other carrier (aside.workers ▸ latest) (aside.starting.trans calm)
        (aside.rx.trans channel) (aside.workers ▸ found) (aside.history ▸ reported.mono) stop
        (aside.queue.trans empty)
  | queued other tid calm channel reported queue =>
      exact .queued other tid (aside.starting.trans calm) (aside.rx.trans channel)
        (aside.history ▸ reported.mono) (aside.queue.trans queue)

theorem Replying.of_aside (replying : Replying next) (aside : Aside runner next events) :
    Replying runner := by
  cases replying with
  | starting onInterrupt closures => exact .starting onInterrupt (aside.closures ▸ closures)
  | worker other replier latest calm found reply =>
      exact .worker other replier (aside.workers ▸ latest) (aside.starting ▸ calm)
        (aside.workers ▸ found) reply
  | queued other code calm present =>
      exact .queued other code (aside.starting ▸ calm) (aside.queue ▸ present)

theorem Steady.aside (events : List SessionEvent) (steady : Steady runner)
    (exclusive : next.Exclusive) (channeled : next.Channeled)
    (aside : Aside runner next events) : Steady next := by
  have stays := fun event present => (aside.stays event present).1
  constructor
  · exact exclusive
  · exact channeled
  · intro other entry found
    rw [aside.workers] at found
    rw [aside.history]
    exact (steady.laws other entry found).mono
  · rw [aside.closures]
    exact steady.launches
  · intro up
    rcases steady.told (aside.endState up) with announced | carrying
    · left
      rw [aside.history]
      exact announced.append stays
    · exact Or.inr (carrying.aside aside)
  · intro replying
    rw [aside.history]
    exact (steady.replies (replying.of_aside aside)).append stays
  · rw [aside.history]
    exact steady.twoStage.append fun event present => (aside.stays event present).2

/-- Receiving an outcome. -/
theorem Steady.receive (steady : Steady runner) (exclusive : next.Exclusive)
    (channeled : next.Channeled) (calm : runner.loop.starting = false)
    (received : runner.receive = some next) : Steady next := by
  unfold Runner.receive at received
  split at received
  · contradiction
  · rename_i number outcome rest queueEq
    cases received
    have quiet : (Event.delivered number outcome : SessionEvent).leavesExit = false := rfl
    have kept : ∀ {events}, ExitAnnounced events →
        ExitAnnounced (events ++ [.delivered number outcome]) :=
      fun announced => announced.append (by simp [quiet])
    constructor
    · exact exclusive
    · exact channeled
    · intro other entry found
      exact (steady.laws other entry found).mono
    · intro job onInterrupt closures
      cases outcome <;> contradiction
    · intro up
      left
      rcases steady.told up with announced | carrying
      · exact kept announced
      · cases carrying with
        | worker _ _ _ _ _ _ _ _ empty =>
            rw [empty] at queueEq
            contradiction
        | queued other tid _ _ reported queue =>
            rw [queue] at queueEq
            cases queueEq
            exact exitAnnounced_delivered reported
    · intro replying
      apply kept
      apply steady.replies
      cases replying with
      | starting onInterrupt closures =>
          cases outcome <;> contradiction
      | worker other replier latest _ found reply =>
          exact .worker other replier latest calm found reply
      | queued other code _ present =>
          exact .queued other code calm (queueEq ▸ List.mem_cons_of_mem _ present)
    · apply steady.twoStage.deliver
      rintro code rfl
      exact steady.replies (.queued number code calm (by simp [queueEq]))

/-- During a start the exit stop is not on its way. -/
theorem Steady.announced_of_starting (steady : Steady runner)
    (starting : runner.loop.starting = true) (up : runner.shared.endState = true) :
    ExitAnnounced runner.history := by
  rcases steady.told up with announced | carrying
  · exact announced
  · cases carrying with
    | worker _ _ _ calm =>
        rw [calm] at starting
        contradiction
    | queued _ _ calm =>
        rw [calm] at starting
        contradiction

/-- The worker is spawned. -/
theorem Steady.spawn {job onInterrupt : Job} (steady : Steady runner)
    (at_ : runner.loop = .spawning job onInterrupt) (exclusive : next.Exclusive)
    (channeled : next.Channeled)
    (next_eq : next = { runner with
      workers := runner.workers ++ [Worker.mk onInterrupt (.locking job)] }.goTo .ready) :
    Steady next := by
  subst next_eq
  have launch := steady.launches job onInterrupt (by rw [at_]; rfl)
  have starting : runner.loop.starting = true := by rw [at_]; rfl
  have empty := steady.channeled.empty_of_subscribed (by rw [at_]; rfl)
  have lookup : ∀ (other : Nat) (entry : Worker Job MultiThreadStopReason),
      (runner.workers ++ [Worker.mk onInterrupt (.locking job)])[other]? = some entry →
        runner.workers[other]? = some entry ∨ entry = Worker.mk onInterrupt (.locking job) := by
    intro other entry found
    rw [List.getElem?_append] at found
    split at found
    · exact Or.inl found
    · rw [List.getElem?_singleton] at found
      split at found
      · exact Or.inr (Option.some.inj found).symm
      · contradiction
  constructor
  · exact exclusive
  · exact channeled
  · intro other entry found
    rcases lookup other entry found with old | rfl
    · exact steady.laws other entry old
    · refine ⟨?_, by simp, launch.handler, by simp, ?_⟩
      · rintro job' same
        cases same
        exact launch.start
      · intro exiting
        rw [launch.reply exiting]
        exact Or.inl rfl
  · simp [LoopStage.closures]
  · intro up
    exact Or.inl (steady.announced_of_starting starting up)
  · intro replying
    cases replying with
    | starting other closures => simp [LoopStage.closures] at closures
    | worker other replier latest _ found reply =>
        have last : other = runner.workers.length := by simpa using latest
        subst last
        simp only [Runner.goTo_workers, List.getElem?_concat_length, Option.some.injEq] at found
        subst found
        have exiting : job = .exiting := by
          cases job with
          | exiting => rfl
          | _ => simp [WorkerStage.exitReply, WorkerStage.carries] at reply
        subst exiting
        exact steady.replies (.starting onInterrupt (by rw [at_]; rfl))
    | queued other code _ present =>
        rw [Runner.goTo_queue, empty] at present
        contradiction
  · exact steady.twoStage

/-- A call of the event loop that accepts no job and does not access the end
state. -/
theorem Steady.turned {action : LoopAction Job (Choice β ε)} (steady : Steady runner)
    (exclusive : next.Exclusive) (stays : action ≠ .intoBackend)
    (noAccess : ∀ choice, action ≠ .access choice)
    (noAccept : ∀ job onInterrupt, action = .start job onInterrupt → runner.replayRunning = true)
    (turned : Runner.Turned (workload target) runner next action) :
    Steady next ∧ next.replayRunning = runner.replayRunning ∧
      next.shared.endState = runner.shared.endState := by
  have channeled := steady.channeled.turned stays turned
  cases turned with
  | passed events open_ passed touched quiet =>
      have same := endState_of_touched touched
      refine ⟨steady.aside events exclusive channeled ?_, passed.running, same⟩
      refine ⟨passed.workers, passed.rx, passed.queue, passed.history, ?_, passed.starting,
        passed.closures, fun up => same.symm.trans up⟩
      intro event present
      rcases quiet with rfl | rfl | rfl
      · contradiction
      · rw [List.mem_singleton.mp present]
        exact ⟨rfl, rfl⟩
      · rw [List.mem_singleton.mp present]
        exact ⟨rfl, rfl⟩
  | fired handle requester rest shared notes at_ fire next_eq =>
      cases fire
      subst next_eq
      have passed : Runner.Passed runner (({ runner with shared := runner.shared }.goTo
          (requester.afterFire none)).record (([] : List Note).map Event.loopNote)) _ :=
        Runner.passed_fired at_
      refine ⟨steady.aside [] exclusive channeled ?_, rfl, rfl⟩
      exact ⟨rfl, rfl, rfl, rfl, by simp, passed.starting, passed.closures, fun up => up⟩
  | accessed choice => exact absurd rfl (noAccess choice)
  | accepted job onInterrupt at_ idle =>
      have running := noAccept job onInterrupt rfl
      rw [idle] at running
      contradiction
  | reset job onInterrupt at_ next_eq =>
      subst next_eq
      refine ⟨steady.aside [.reset runner.workers.length] exclusive channeled ?_,
        rfl, rfl⟩
      exact ⟨rfl, rfl, rfl, rfl, by simp [Event.leavesExit, Event.deliveredJob],
        by rw [at_]; rfl, by rw [at_]; rfl, fun up => up⟩
  | swapped job onInterrupt at_ next_eq =>
      subst next_eq
      have starting : runner.loop.starting = true := by rw [at_]; rfl
      refine ⟨⟨exclusive, channeled, steady.laws, ?_, ?_, ?_, steady.twoStage⟩, rfl, rfl⟩
      · intro job' onInterrupt' closures
        exact steady.launches job' onInterrupt' (by rw [at_]; exact closures)
      · exact fun up => Or.inl (steady.announced_of_starting starting up)
      · intro replying
        cases replying with
        | starting other closures =>
            exact steady.replies (.starting other (by rw [at_]; exact closures))
        | worker _ _ _ calm => simp [LoopStage.starting] at calm
        | queued _ _ calm => simp [LoopStage.starting] at calm
  | spawned job onInterrupt at_ next_eq =>
      refine ⟨steady.spawn at_ exclusive channeled next_eq, ?_, ?_⟩ <;> rw [next_eq] <;> rfl
  | stored requester stage at_ calm _ alone _ next_eq =>
      subst next_eq
      refine ⟨steady.aside [.stored] exclusive channeled ?_, rfl, rfl⟩
      exact ⟨rfl, rfl, rfl, rfl, by simp [Event.leavesExit, Event.deliveredJob],
        by rw [at_]; exact calm, by rw [at_]; exact alone, fun up => up⟩
  | received calm _ _ received =>
      refine ⟨steady.receive exclusive channeled calm received, ?_⟩
      unfold Runner.receive at received
      split at received
      · contradiction
      · cases received
        exact ⟨rfl, rfl⟩
  | closed at_ _ =>
      have staying := steady.channeled.staying
      simp [at_, LoopStage.leaving] at staying

/-- Nothing is on its way that the end state does not account for. -/
theorem pendingStop_of_carrying (steady : Steady runner) (idle : runner.replayRunning = false)
    (carrying : Carrying runner) :
    runner.pendingStop.any MultiThreadStopReason.isKill = true := by
  cases carrying with
  | worker number worker latest _ _ found _ stop empty =>
      have landed := steady.exclusive.landed idle found
      have last : runner.workers.getLast? = some worker := by
        rw [List.getLast?_eq_getElem?, ← latest, Nat.add_sub_cancel]
        exact found
      rcases worker with ⟨handler, stage⟩
      unfold Runner.pendingStop
      rw [empty, last]
      cases stage with
      | sending outcome =>
          cases outcome with
          | ok result => exact stop
          | panic panicked => simp [WorkerStage.exitStop, WorkerStage.carries] at stop
      | done => simp [WorkerStage.exitStop, WorkerStage.carries] at stop
      | _ => simp [WorkerStage.inFlight, WorkerStage.holdsBackend, WorkerStage.holdsGuard] at landed
  | queued number tid _ _ _ queue =>
      unfold Runner.pendingStop
      rw [queue]
      rfl

/-- An exit reply that is no longer in flight is the pending stop. -/
theorem pendingStop_of_replying (steady : Steady runner) (at_ : runner.loop = .ready)
    (idle : runner.replayRunning = false) (replying : Replying runner) :
    runner.pendingStop.any MultiThreadStopReason.isExited = true := by
  cases replying with
  | starting onInterrupt closures =>
      rw [at_] at closures
      contradiction
  | worker number worker latest calm found reply =>
      have landed := steady.exclusive.landed idle found
      have last : runner.workers.getLast? = some worker := by
        rw [List.getLast?_eq_getElem?, ← latest, Nat.add_sub_cancel]
        exact found
      have unsent : worker.stage ≠ .done := by
        intro done
        rw [done] at reply
        contradiction
      have some_ : runner.workers ≠ [] := by
        rintro none_
        simp [none_] at found
      obtain ⟨current, rx, top⟩ := steady.channeled.current calm some_
      have same : current = number := by omega
      rw [same] at rx
      have empty := steady.channeled.empty found unsent rx
      rcases worker with ⟨handler, stage⟩
      unfold Runner.pendingStop
      rw [empty, last]
      cases stage with
      | sending outcome =>
          cases outcome with
          | ok result => exact reply
          | panic panicked => contradiction
      | done => contradiction
      | _ => contradiction
  | queued number code calm present =>
      rcases steady.channeled.single with empty | ⟨_, outcome, _, queue, _⟩
      · rw [empty] at present
        contradiction
      · rw [queue] at present
        have same := List.mem_singleton.mp present
        rw [Prod.mk.injEq] at same
        unfold Runner.pendingStop
        rw [queue, ← same.2]
        rfl

/-- A job is accepted. -/
theorem Steady.launched {job onInterrupt : Job} (events : List SessionEvent)
    (steady : Steady runner) (launch : Launch job onInterrupt) (exclusive : next.Exclusive)
    (channeled : next.Channeled)
    (workers : next.workers = runner.workers) (loop : next.loop = .resetting job onInterrupt)
    (history : next.history = runner.history ++ events)
    (undelivered : ∀ event ∈ events, event.deliveredJob = none)
    (told : next.shared.endState = true → ExitAnnounced next.history)
    (reply : job = .exiting → ExitAnnounced next.history) : Steady next := by
  constructor
  · exact exclusive
  · exact channeled
  · intro other entry found
    rw [workers] at found
    rw [history]
    exact (steady.laws other entry found).mono
  · intro job' onInterrupt' closures
    rw [loop] at closures
    cases closures
    exact launch
  · exact fun up => Or.inl (told up)
  · intro replying
    cases replying with
    | starting other closures =>
        rw [loop] at closures
        cases closures
        exact reply rfl
    | worker _ _ _ calm =>
        rw [loop] at calm
        contradiction
    | queued _ _ calm =>
        rw [loop] at calm
        contradiction
  · rw [history]
    exact steady.twoStage.append undelivered

/-- A restart clears the end state while no exit reply is pending. -/
theorem Steady.cleared (steady : Steady runner) (at_ : runner.loop = .ready)
    (idle : runner.replayRunning = false)
    (none_ : runner.pendingStop.any MultiThreadStopReason.isExited = false)
    (exclusive : next.Exclusive) (channeled : next.Channeled)
    (next_eq : next = { runner with shared := { runner.shared with endState := false } }.record
      [.loopNote .restarted]) : Steady next := by
  subst next_eq
  constructor
  · exact exclusive
  · exact channeled
  · intro other entry found
    exact (steady.laws other entry found).mono
  · exact steady.launches
  · intro up
    contradiction
  · intro replying
    have before : Replying runner := by
      cases replying with
      | starting other closures => exact .starting other closures
      | worker other replier latest calm found reply =>
          exact .worker other replier latest calm found reply
      | queued other code calm present => exact .queued other code calm present
    have pending := pendingStop_of_replying steady at_ idle before
    rw [none_] at pending
    contradiction
  · exact steady.twoStage.append (by simp [Event.deliveredJob])

end TtdGdbserver.Gdb
