import TtdGdbserver.Gdb.Runner.Delivery

/-!
# The channel of the latest worker

Until the backend is recovered, the receiver belongs to the latest worker, and
the channel holds at most the outcome of that worker.
-/

namespace TtdGdbserver.Gdb.Runner

open TtdGdbserver.Transition

variable {S J H R N C : Type} {load : Workload S J H R N C}
variable {runner next : Runner S J H R N}

/-- Who may have sent what the event loop receives. -/
structure Channeled (runner : Runner S J H R N) : Prop where
  staying : runner.loop.leaving = false
  current : runner.loop.starting = false → runner.workers ≠ [] →
    ∃ number, runner.rx = some number ∧ number + 1 = runner.workers.length
  subscribed : runner.loop.subscribed = true → runner.rx = some runner.workers.length
  single : runner.queue = [] ∨ ∃ number outcome worker, runner.queue = [(number, outcome)] ∧
    runner.rx = some number ∧ runner.workers[number]? = some worker ∧ worker.stage = .done

theorem channeled_new (shared : S) : Channeled (new shared : Runner S J H R N) := by
  constructor <;> simp [new, LoopStage.leaving, LoopStage.subscribed]

/-- While a worker still has to send, its channel is empty. -/
theorem Channeled.empty (channeled : Channeled runner) {number : Nat} {worker : Worker J R}
    (found : runner.workers[number]? = some worker) (unsent : worker.stage ≠ .done)
    (owns : runner.rx = some number) : runner.queue = [] := by
  rcases channeled.single with empty | ⟨other, outcome, sender, _, rx, foundSender, done⟩
  · exact empty
  · have same : other = number := Option.some.inj (rx.symm.trans owns)
    subst same
    have this : sender = worker := Option.some.inj (foundSender.symm.trans found)
    rw [this] at done
    exact absurd done unsent

/-- A worker in flight is the latest, and the channel is its own. -/
theorem Channeled.owns (channeled : Channeled runner) (exclusive : Exclusive runner)
    {number : Nat} {worker : Worker J R} (found : runner.workers[number]? = some worker)
    (flying : worker.stage.inFlight = true) :
    number + 1 = runner.workers.length ∧ runner.loop.starting = false ∧
      runner.rx = some number ∧ runner.queue = [] := by
  obtain ⟨latest, _, calm⟩ := exclusive.alone number worker found flying
  have some_ : runner.workers ≠ [] := by
    rintro none_
    simp [none_] at found
  obtain ⟨current, rx, last⟩ := channeled.current calm some_
  have same : current = number := by omega
  subst same
  refine ⟨latest, calm, rx, channeled.empty found ?_ rx⟩
  intro done
  rw [done] at flying
  contradiction

/-- A step of a worker keeps the channel. -/
theorem Channeled.acted {number : Nat} {worker : Worker J R} {stage : WorkerStage J R}
    {events : List (Event R N)} (channeled : Channeled runner)
    (found : runner.workers[number]? = some worker) (moving : worker.stage ≠ .done)
    (acted : Acted runner next number worker stage events) : Channeled next := by
  have inside : number < runner.workers.length := (List.getElem?_eq_some_iff.mp found).1
  have length : next.workers.length = runner.workers.length := by
    rw [acted.workers, List.length_set]
  constructor
  · rw [acted.loop]
    exact channeled.staying
  · intro calm some_
    rw [acted.loop] at calm
    rw [acted.rx, length]
    apply channeled.current calm
    rintro none_
    rw [none_] at inside
    exact Nat.not_lt_zero number inside
  · rw [acted.loop, acted.rx, length]
    exact channeled.subscribed
  · by_cases owns : runner.rx = some number
    · have empty := channeled.empty found moving owns
      rcases acted.sent with ⟨_, queue⟩ | ⟨outcome, _, done, _, queue⟩
      · left
        rw [queue, empty]
      · right
        refine ⟨number, outcome, { worker with stage := stage }, ?_, by rw [acted.rx, owns], ?_,
          done⟩
        · rw [queue, if_pos owns, empty]
          rfl
        · rw [acted.workers, List.getElem?_set_self inside]
    · have kept : next.queue = runner.queue := by
        rcases acted.sent with ⟨_, queue⟩ | ⟨outcome, _, _, _, queue⟩
        · exact queue
        · rw [queue, if_neg owns]
      rw [kept, acted.rx]
      rcases channeled.single with empty | ⟨other, outcome, sender, queue, rx, foundSender, done⟩
      · exact Or.inl empty
      · right
        refine ⟨other, outcome, sender, queue, rx, ?_, done⟩
        have different : number ≠ other := by
          rintro rfl
          exact owns rx
        rw [acted.workers, List.getElem?_set_ne different]
        exact foundSender

/-- A start in progress that has its channel finds it empty. -/
theorem Channeled.empty_of_subscribed (channeled : Channeled runner)
    (subscribed : runner.loop.subscribed = true) : runner.queue = [] := by
  have owns := channeled.subscribed subscribed
  rcases channeled.single with empty | ⟨number, outcome, sender, _, rx, found, _⟩
  · exact empty
  · have same : number = runner.workers.length := Option.some.inj (rx.symm.trans owns)
    have inside := (List.getElem?_eq_some_iff.mp found).1
    omega

theorem Channeled.passed {events : List (Event R N)} (channeled : Channeled runner)
    (passed : Passed runner next events)
    (leaving : next.loop.leaving = true → runner.loop.leaving = true) : Channeled next := by
  constructor
  · rw [Bool.eq_false_iff]
    intro left_
    have before := leaving left_
    rw [channeled.staying] at before
    contradiction
  · rw [passed.starting, passed.workers, passed.rx]
    exact channeled.current
  · intro subscribed
    rw [passed.rx, passed.workers]
    exact channeled.subscribed (passed.subscribed subscribed)
  · rw [passed.queue, passed.rx, passed.workers]
    exact channeled.single

/-- A step of the event loop keeps the channel. -/
theorem Channeled.turned {action : LoopAction J C} (channeled : Channeled runner)
    (stays : action ≠ .intoBackend) (turned : Turned load runner next action) :
    Channeled next := by
  cases turned with
  | passed events open_ passed _ _ leaving =>
      apply channeled.passed passed
      intro left_
      rcases leaving left_ with before | called
      · exact before
      · exact absurd called stays
  | fired handle requester rest shared notes at_ _ next_eq =>
      subst next_eq
      apply channeled.passed (passed_fired at_)
      intro left_
      rw [at_]
      exact leaving_fired left_
  | accessed choice at_ next_eq =>
      subst next_eq
      exact ⟨channeled.staying, channeled.current, channeled.subscribed, channeled.single⟩
  | accepted job onInterrupt at_ idle next_eq =>
      subst next_eq
      exact ⟨rfl, by simp [LoopStage.starting], by simp [LoopStage.subscribed], channeled.single⟩
  | reset job onInterrupt at_ next_eq =>
      subst next_eq
      exact ⟨rfl, by simp [LoopStage.starting], by simp [LoopStage.subscribed], channeled.single⟩
  | swapped job onInterrupt at_ next_eq =>
      subst next_eq
      exact ⟨rfl, by simp [LoopStage.starting], by simp, Or.inl rfl⟩
  | spawned job onInterrupt at_ next_eq =>
      subst next_eq
      have subscribed : runner.loop.subscribed = true := by rw [at_]; rfl
      refine ⟨rfl, ?_, by simp [LoopStage.subscribed],
        Or.inl (channeled.empty_of_subscribed subscribed)⟩
      intro _ _
      exact ⟨_, channeled.subscribed subscribed, by simp⟩
  | stored requester stage at_ calm single alone leaving next_eq =>
      subst next_eq
      have calmBefore : runner.loop.starting = false := by rw [at_]; rfl
      refine ⟨?_, fun _ => channeled.current calmBefore, ?_, channeled.single⟩
      · simp only [record_loop, goTo_loop, Bool.eq_false_iff]
        intro left_
        have before := leaving left_
        rw [channeled.staying] at before
        contradiction
      · simp [subscribed_of_calm calm]
  | received calm _ _ received =>
      unfold Runner.receive at received
      split at received
      · contradiction
      · rename_i number outcome rest queueEq
        cases received
        rcases channeled.single with empty | ⟨other, sent, worker, queue, _⟩
        · rw [empty] at queueEq
          contradiction
        · rw [queue, List.cons.injEq] at queueEq
          rcases queueEq with ⟨same, rfl⟩
          refine ⟨?_, fun _ => channeled.current calm, ?_, Or.inl rfl⟩ <;>
            cases outcome <;> simp [mapWorkerResult, LoopStage.leaving, LoopStage.subscribed]
  | closed at_ next_eq =>
      have staying := channeled.staying
      simp [at_, LoopStage.leaving] at staying

end TtdGdbserver.Gdb.Runner
