import TtdGdbserver.Gdb.Runner.Serial

/-!
# One job at a time

As long as the stop of every job is taken before the next start, the runner goes
around: it is quiet, a job boards, flies and arrives, and its stop is taken.
The memory is that of a run of the closures alone, all the way around.
-/

namespace TtdGdbserver.Gdb

open TtdGdbserver.Transition

variable {S J H R N C : Type}

/-- `start` has called `begin_resume`. -/
def LoopStage.began {J H : Type} : LoopStage J H → Bool
  | .releasing .. | .swappingReceiver .. | .cloning .. | .spawning .. => true
  | _ => false

namespace Runner

/-- Every worker has finished. -/
def Landed (workers : List (Worker J R)) : Prop :=
  ∀ worker ∈ workers, worker.stage = .done

/-- The outcome of the job is still to be delivered, and no other. -/
def Awaits (runner : Runner S J H R N) (number : Nat) : Prop :=
  acceptedJobs runner.history = deliveredJobs runner.history ++ [number]

/-- No job, and no stop to take. -/
structure Quiet (runner : Runner S J H R N) : Prop where
  landed : Landed runner.workers
  calm : runner.loop.starting = false
  empty : runner.queue = []
  answered : deliveredJobs runner.history = acceptedJobs runner.history

/-- A job is being started on the memory `start`. -/
structure Boarding (load : Workload S J H R N C) (runner : Runner S J H R N)
    (job onInterrupt : J) (start : S) : Prop where
  landed : Landed runner.workers
  closures : runner.loop.closures = some (job, onInterrupt)
  empty : runner.queue = []
  awaits : runner.Awaits runner.workers.length
  shared : runner.shared = if runner.loop.began then load.beginResume start else start
  flag : runner.loop.wasReset = true → runner.interrupted = false

/-- A worker has the job. -/
structure Airborne (load : Workload S J H R N C) (asked : Prop) (runner : Runner S J H R N)
    (job onInterrupt : J) (start : S) : Prop where
  crew : ∃ (landed : List (Worker J R)) (worker : Worker J R),
    runner.workers = landed ++ [worker] ∧ Landed landed ∧ worker.stage ≠ .done ∧
      worker.onInterrupt = onInterrupt ∧ runner.Awaits landed.length ∧
      load.Partway asked job onInterrupt start runner.shared worker.stage
  calm : runner.loop.starting = false
  unlocked : runner.loop.locks = false
  empty : runner.queue = []
  flag : runner.interrupted = true → asked
  asking : runner.loop.asking = true → asked

/-- The outcome of the job waits in the channel. -/
structure Arrived (load : Workload S J H R N C) (asked : Prop) (runner : Runner S J H R N)
    (job onInterrupt : J) (start : S) (outcome : Outcome R) : Prop where
  landed : Landed runner.workers
  calm : runner.loop.starting = false
  unlocked : runner.loop.locks = false
  queue : ∃ number, runner.queue = [(number, outcome)] ∧ runner.Awaits number
  yields : load.Yields asked job onInterrupt start outcome runner.shared

variable {load : Workload S J H R N C} {runner next : Runner S J H R N}
  {action : LoopAction J C} {asked more : Prop} {job onInterrupt : J} {start : S} {number : Nat}
  {outcome : Outcome R}

theorem Awaits.ne (awaits : runner.Awaits number) :
    deliveredJobs runner.history ≠ acceptedJobs runner.history := by
  intro same
  have lengths := congrArg List.length (same.trans awaits)
  simp at lengths

theorem Awaits.transfer (awaits : runner.Awaits number)
    (accepted : acceptedJobs next.history = acceptedJobs runner.history)
    (delivered : deliveredJobs next.history = deliveredJobs runner.history) :
    next.Awaits number := by
  rw [Awaits, accepted, delivered]
  exact awaits

/-- Nothing moves but the event loop. -/
theorem Landed.no_step (landed : Landed runner.workers) (choice : C) :
    Runner.step load runner (.worker number choice) = none := by
  simp only [Runner.step]
  split
  · rfl
  · rename_i worker found
    have done := landed worker (List.mem_of_getElem? found)
    simp only [workerStep, done]

/-! ## Quiet -/

theorem quiet_new (shared : S) : Quiet (new shared : Runner S J H R N) := by
  constructor <;> simp [new, Landed, LoopStage.starting, deliveredJobs, acceptedJobs]

theorem Quiet.idle (quiet : Quiet runner) (exclusive : Exclusive runner) :
    runner.replayRunning = false := by
  cases flying : runner.replayRunning with
  | false => rfl
  | true =>
      rcases exclusive.raised flying with starting | ⟨number, worker, found, airborne⟩
      · rw [quiet.calm] at starting
        contradiction
      · rw [quiet.landed worker (List.mem_of_getElem? found)] at airborne
        contradiction

theorem Quiet.waited (quiet : Quiet runner) (waited : Waited runner next action) :
    Quiet next where
  landed := by rw [waited.workers]; exact quiet.landed
  calm := waited.calm
  empty := by rw [waited.queue]; exact quiet.empty
  answered := by rw [waited.delivered, waited.accepted]; exact quiet.answered

theorem Quiet.not_received (quiet : Quiet runner) : runner.receive ≠ some next := by
  intro received
  rw [receive, quiet.empty] at received
  contradiction

/-- A query uses the memory and nothing else. -/
theorem served_loopStep {choice : C}
    (stepEq : runner.loopStep load (.serve choice) = some next) :
    next = { runner with shared := load.serve choice runner.shared } := by
  unfold Runner.loopStep at stepEq
  split at stepEq
  all_goals try contradiction
  rename_i same
  cases same
  cases stepEq
  rfl

/-- Only who holds the memory uses it. -/
theorem unserved_of_unlocked (unlocked : runner.loop.locks = false)
    (stepEq : runner.loopStep load action = some next) (choice : C) : action ≠ .serve choice := by
  rintro rfl
  unfold Runner.loopStep at stepEq
  split at stepEq
  all_goals try contradiction
  rename_i holding _
  rw [holding] at unlocked
  contradiction

theorem Quiet.served {choice : C} (quiet : Quiet runner)
    (stepEq : runner.loopStep load (.serve choice) = some next) : Quiet next := by
  rw [served_loopStep stepEq]
  exact ⟨quiet.landed, quiet.calm, quiet.empty, quiet.answered⟩

/-- An access between two calls, with notes that tell the client nothing. -/
theorem Quiet.accessed {choice : C} (quiet : Quiet runner)
    (stepEq : runner.loopStep load (.access choice) = some next) :
    Quiet next ∧ next.shared = (load.access choice runner.shared).1 ∧
      deliveries next.history = deliveries runner.history := by
  obtain ⟨-, rfl⟩ := accessed_loopStep stepEq
  have neutral := neutral_loopNotes (R := R) (load.access choice runner.shared).2
  refine ⟨⟨quiet.landed, quiet.calm, quiet.empty, ?_⟩, rfl, deliveries_append_of_neutral neutral⟩
  simp only [record_history]
  rw [deliveredJobs_append_of_none fun event present => (neutral event present).2,
    acceptedJobs_append_of_none fun event present => (neutral event present).1]
  exact quiet.answered

/-- An idle runner accepts a job. -/
theorem Quiet.accepted (quiet : Quiet runner) (exclusive : Exclusive runner)
    (stepEq : runner.loopStep load (.start job onInterrupt) = some next) :
    Boarding load next job onInterrupt runner.shared ∧
      deliveries next.history = deliveries runner.history := by
  obtain ⟨-, rfl⟩ := accepted_loopStep (quiet.idle exclusive) stepEq
  refine ⟨⟨quiet.landed, rfl, quiet.empty, ?_, rfl, nofun⟩, ?_⟩
  · simp only [Awaits, record_history, goTo_history, record_workers, goTo_workers]
    rw [acceptedJobs, List.filterMap_append, ← acceptedJobs,
      deliveredJobs_append_of_none (by simp [Event.deliveredJob]), quiet.answered]
    rfl
  · simp [deliveries]

/-! ## Boarding -/

/-- Only the call in progress goes on. -/
theorem proceed_of_starting (starting : runner.loop.starting = true)
    (stepEq : runner.loopStep load action = some next) : action = .proceed := by
  unfold Runner.loopStep at stepEq
  split at stepEq
  all_goals rename_i at_
  all_goals first | rfl | contradiction | simp [at_, LoopStage.starting] at starting

/-- A step of `start` that neither calls `begin_resume` nor spawns. -/
theorem Boarding.still (boarding : Boarding load runner job onInterrupt start)
    (workers : next.workers = runner.workers) (shared : next.shared = runner.shared)
    (queue : next.queue = [])
    (accepted : acceptedJobs next.history = acceptedJobs runner.history)
    (delivered : deliveredJobs next.history = deliveredJobs runner.history)
    (closures : next.loop.closures = runner.loop.closures)
    (began : next.loop.began = runner.loop.began)
    (flag : next.loop.wasReset = true → next.interrupted = false) :
    Boarding load next job onInterrupt start where
  landed := by rw [workers]; exact boarding.landed
  closures := closures.trans boarding.closures
  empty := queue
  awaits := by rw [workers]; exact boarding.awaits.transfer accepted delivered
  shared := by rw [shared, began]; exact boarding.shared
  flag := flag

theorem Boarding.started (boarding : Boarding load runner job onInterrupt start) :
    runner.loop.starting = true := by
  have closures := boarding.closures
  cases at_ : runner.loop <;> simp [at_, LoopStage.closures, LoopStage.starting] at closures ⊢

/-- The job comes nearer to its worker, or has it. -/
theorem Boarding.loopStep (asked : Prop) (boarding : Boarding load runner job onInterrupt start)
    (stepEq : runner.loopStep load action = some next) :
    (Boarding load next job onInterrupt start ∨
      Airborne load asked next job onInterrupt (load.beginResume start)) ∧
      deliveries next.history = deliveries runner.history := by
  have closures := boarding.closures
  obtain rfl := proceed_of_starting boarding.started stepEq
  cases at_ : runner.loop with
  | resetting first second =>
      simp only [Runner.loopStep, at_, Option.some.injEq] at stepEq
      subst next
      have neutral : ∀ event ∈ [(.reset runner.workers.length : Event R N)], Neutral event := by
        simp [Neutral, Event.acceptedJob, Event.deliveredJob]
      refine ⟨.inl (boarding.still rfl rfl boarding.empty ?_ ?_ ?_ ?_ fun _ => rfl),
        deliveries_append_of_neutral neutral⟩
      · exact acceptedJobs_append_of_none fun event present => (neutral event present).1
      · exact deliveredJobs_append_of_none fun event present => (neutral event present).2
      · rw [at_]; rfl
      · rw [at_]; rfl
  | lockingResume first second =>
      simp only [Runner.loopStep, at_, Option.ite_none_right_eq_some, Option.some.injEq] at stepEq
      obtain ⟨-, rfl⟩ := stepEq
      have flag := boarding.flag (by rw [at_]; rfl)
      exact ⟨.inl (boarding.still rfl rfl boarding.empty rfl rfl (by rw [at_]; rfl)
        (by rw [at_]; rfl) fun _ => flag), rfl⟩
  | resuming first second =>
      simp only [Runner.loopStep, at_, Option.some.injEq] at stepEq
      subst next
      have flag := boarding.flag (by rw [at_]; rfl)
      have shared : runner.shared = start := by
        rw [boarding.shared, at_]
        rfl
      rw [at_] at closures
      refine ⟨.inl ⟨boarding.landed, closures, boarding.empty, boarding.awaits, ?_,
        fun _ => flag⟩, rfl⟩
      show load.beginResume runner.shared = load.beginResume start
      rw [shared]
  | releasing first second | cloning first second =>
      simp only [Runner.loopStep, at_, Option.some.injEq] at stepEq
      subst next
      have flag := boarding.flag (by rw [at_]; rfl)
      exact ⟨.inl (boarding.still rfl rfl boarding.empty rfl rfl (by rw [at_]; rfl)
        (by rw [at_]; rfl) fun _ => flag), rfl⟩
  | swappingReceiver first second =>
      simp only [Runner.loopStep, at_, Option.some.injEq] at stepEq
      subst next
      have flag := boarding.flag (by rw [at_]; rfl)
      exact ⟨.inl (boarding.still rfl rfl rfl rfl rfl (by rw [at_]; rfl)
        (by rw [at_]; rfl) fun _ => flag), rfl⟩
  | spawning first second =>
      simp only [Runner.loopStep, at_, Option.some.injEq] at stepEq
      subst next
      have flag := boarding.flag (by rw [at_]; rfl)
      rw [at_] at closures
      cases closures
      refine ⟨.inr ⟨⟨runner.workers, _, rfl, boarding.landed, by simp, rfl, boarding.awaits,
        rfl, ?_⟩, rfl, rfl, boarding.empty, ?_, by simp [LoopStage.asking]⟩, rfl⟩
      · show runner.shared = load.beginResume start
        rw [boarding.shared, at_]
        rfl
      · intro interrupted
        rw [show runner.interrupted = true from interrupted] at flag
        contradiction
  | ready | requesting | storing | firing | checking | waiting | locking | holding | polling
  | unwrapping | finished => simp [at_, LoopStage.closures] at closures

/-! ## In the air -/

theorem neutral_of_ownedBy {event : Event R N} (own : event.ownedBy number = true) :
    Neutral event := by
  cases event <;> simp [Event.ownedBy, Neutral, Event.acceptedJob, Event.deliveredJob] at own ⊢

/-- A worker's step tells the client nothing. -/
theorem untold_workerStep {worker : Worker J R} {choice : C}
    (stepEq : runner.workerStep load number worker choice = some next) :
    next.loop = runner.loop ∧ acceptedJobs next.history = acceptedJobs runner.history ∧
      deliveredJobs next.history = deliveredJobs runner.history ∧
      deliveries next.history = deliveries runner.history := by
  obtain ⟨stage, events, acted⟩ := acted_workerStep stepEq
  have neutral := fun event present => neutral_of_ownedBy (acted.own event present)
  refine ⟨acted.loop, ?_, ?_, ?_⟩
  · rw [acted.history]
    exact acceptedJobs_append_of_none fun event present => (neutral event present).1
  · rw [acted.history]
    exact deliveredJobs_append_of_none fun event present => (neutral event present).2
  · rw [acted.history]
    exact deliveries_append_of_neutral neutral

/-- The worker takes its job further, or has sent the outcome. -/
theorem Airborne.worker {choice : C} (airborne : Airborne load asked runner job onInterrupt start)
    (channeled : Channeled runner)
    (stepEq : Runner.step load runner (.worker number choice) = some next) :
    (Airborne load asked next job onInterrupt start ∨
      ∃ outcome, Arrived load asked next job onInterrupt start outcome) ∧
      deliveries next.history = deliveries runner.history := by
  obtain ⟨landed, worker, workers, finished, flying, same, awaits, partway⟩ := airborne.crew
  simp only [Runner.step] at stepEq
  split at stepEq
  · contradiction
  · rename_i actor found
    obtain ⟨loop, accepted, delivered, told⟩ := untold_workerStep stepEq
    rw [workers] at found
    rcases Nat.lt_or_ge number landed.length with before | beyond
    · rw [List.getElem?_append_left before] at found
      have done := finished actor (List.mem_of_getElem? found)
      simp [workerStep, done] at stepEq
    · rw [List.getElem?_append_right beyond, List.getElem?_singleton] at found
      split at found
      · rename_i last
        cases found
        obtain rfl : number = landed.length := by omega
        rw [← same] at partway
        obtain ⟨stage, moved, partway', flag, ending⟩ :=
          partway_workerStep partway airborne.flag stepEq
        have moved : next.workers = landed ++ [{ worker with stage := stage }] := by
          rw [moved, workers, List.set_append_right _ _ (Nat.le_refl _), Nat.sub_self]
          rfl
        have awaits' := awaits.transfer accepted delivered
        have calm : next.loop.starting = false := by rw [loop]; exact airborne.calm
        have unlocked : next.loop.locks = false := by rw [loop]; exact airborne.unlocked
        refine ⟨?_, told⟩
        rcases ending with ⟨going, queue⟩ | ⟨outcome, rfl, yields, queue⟩
        · refine .inl ⟨⟨landed, _, moved, finished, going, same, awaits', ?_⟩, calm, unlocked,
            by rw [queue]; exact airborne.empty, flag, by rw [loop]; exact airborne.asking⟩
          rw [← same]
          exact partway'
        · obtain ⟨current, rx, latest⟩ := channeled.current airborne.calm (by simp [workers])
          obtain rfl : current = landed.length := by simpa [workers] using latest
          refine .inr ⟨outcome, ?_, calm, unlocked, ⟨landed.length, ?_, awaits'⟩, same ▸ yields⟩
          · intro other present
            rw [moved] at present
            rcases List.mem_append.mp present with earlier | last
            · exact finished other earlier
            · rw [List.mem_singleton.mp last]
          · rw [queue, if_pos rx, airborne.empty]
            rfl
      · contradiction

/-- The event loop waits, and may ask for an interrupt. -/
theorem Airborne.attended (airborne : Airborne load asked runner job onInterrupt start)
    (attended : Attended load runner next action) (unlocking : action.locks = false)
    (implies : asked → more) (asks : action.asks = true → more) :
    Airborne load more next job onInterrupt start ∧
      deliveries next.history = deliveries runner.history := by
  obtain ⟨landed, worker, workers, finished, flying, same, awaits, partway⟩ := airborne.crew
  cases attended with
  | waited waited =>
      refine ⟨⟨⟨landed, worker, ?_, finished, flying, same,
        awaits.transfer waited.accepted waited.delivered, ?_⟩, waited.calm, ?_, ?_, ?_, ?_⟩,
        waited.outcomes⟩
      · rw [waited.workers, workers]
      · rw [waited.shared]
        exact partway.mono implies
      · rw [Bool.eq_false_iff]
        intro locks
        rcases waited.locks locks with before | now
        · rw [airborne.unlocked] at before
          contradiction
        · rw [unlocking] at now
          contradiction
      · rw [waited.queue, airborne.empty]
      · intro flag
        rcases waited.flag flag with before | asking
        · exact implies (airborne.flag before)
        · exact implies (airborne.asking asking)
      · intro asking
        rcases waited.asking asking with before | now
        · exact implies (airborne.asking before)
        · exact asks now
  | received _ received =>
      rw [receive, airborne.empty] at received
      contradiction
  | served choice use _ at_ _ =>
      have unlocked := airborne.unlocked
      simp [at_, LoopStage.locks] at unlocked

/-! ## The stop -/

/-- The event loop has not taken the stop yet, or takes it now. -/
theorem Arrived.attended (arrived : Arrived load asked runner job onInterrupt start outcome)
    (attended : Attended load runner next action) (unlocking : action.locks = false)
    (implies : asked → more) :
    (Arrived load more next job onInterrupt start outcome ∧
      deliveries next.history = deliveries runner.history) ∨
      (Quiet next ∧ next.shared = runner.shared ∧
        deliveries next.history = deliveries runner.history ++ [outcome]) := by
  obtain ⟨number, queue, awaits⟩ := arrived.queue
  cases attended with
  | waited waited =>
      refine .inl ⟨⟨?_, waited.calm, ?_, ⟨number, ?_, ?_⟩, ?_⟩, waited.outcomes⟩
      · rw [waited.workers]
        exact arrived.landed
      · rw [Bool.eq_false_iff]
        intro locks
        rcases waited.locks locks with before | now
        · rw [arrived.unlocked] at before
          contradiction
        · rw [unlocking] at now
          contradiction
      · rw [waited.queue, queue]
      · exact awaits.transfer waited.accepted waited.delivered
      · rw [waited.shared]
        exact arrived.yields.mono implies
  | received _ received =>
      rw [receive, queue] at received
      cases received
      refine .inr ⟨⟨arrived.landed, ?_, rfl, ?_⟩, rfl, ?_⟩
      · cases outcome <;> rfl
      · show deliveredJobs (runner.history ++ [.delivered number outcome]) =
          acceptedJobs (runner.history ++ [.delivered number outcome])
        rw [acceptedJobs_append_of_none (by simp [Event.acceptedJob]), awaits, deliveredJobs,
          List.filterMap_append, ← deliveredJobs]
        rfl
      · simp [deliveries, List.filterMap_append]
  | served choice use _ at_ _ =>
      have unlocked := arrived.unlocked
      simp [at_, LoopStage.locks] at unlocked

end Runner

end TtdGdbserver.Gdb
