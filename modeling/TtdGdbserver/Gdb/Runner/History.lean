import TtdGdbserver.Gdb.Runner.Core
import TtdGdbserver.Transition.Latest

/-!
# The history of a runner

What the history says about one job: whether a closure of it panicked, whether
an interrupt request fell into its flight, and which outcome follows from that.
-/

namespace TtdGdbserver.Gdb

open TtdGdbserver.Transition

variable {J R N : Type}

/-! ## Reading the history -/

/-- The number of the job an event accepts. -/
def Event.acceptedJob : Event R N → Option Nat
  | .accepted number => some number
  | _ => none

/-- The number of the job whose outcome an event delivers. -/
def Event.deliveredJob : Event R N → Option Nat
  | .delivered number _ => some number
  | _ => none

/-- The jobs accepted so far. -/
def acceptedJobs (history : List (Event R N)) : List Nat :=
  history.filterMap Event.acceptedJob

/-- The jobs whose outcomes were delivered so far, in the order of delivery. -/
def deliveredJobs (history : List (Event R N)) : List Nat :=
  history.filterMap Event.deliveredJob

/-- Some `request_interrupt` stored the flag after the reset for the job. -/
def StoredSinceReset (number : Nat) (history : List (Event R N)) : Prop :=
  List.Sublist [.reset number, .stored] history

/-- Some `request_interrupt` stored the flag after the reset for the job and
before the swap of its worker. -/
def StoredInFlight (number : Nat) (history : List (Event R N)) : Prop :=
  List.Sublist [.reset number, .stored, .swapped number] history

/-- The outcome of a job as the history of the job determines it. -/
structure Attributed (number : Nat) (outcome : Outcome R) (history : List (Event R N)) :
    Prop where
  /-- It is a panic exactly if a closure of the job panicked. -/
  panic : ∀ panicked, outcome = .panic panicked ↔
    ∃ which payload, .ended number which (.panicked payload) ∈ history ∧
      panicked = .fromPayload payload
  /-- Otherwise it is the result of `on_interrupt` if an interrupt request fell
  into the flight of the job, and else the result of the job. -/
  value : ∀ result, outcome = .ok result →
    (StoredInFlight number history ∧ .ended number .onInterrupt (.returned result) ∈ history) ∨
      (¬ StoredInFlight number history ∧
        (∀ ending, .ended number .onInterrupt ending ∉ history) ∧
        .ended number .job (.returned result) ∈ history)

/-- No closure of the job has ended, and its worker has not swapped the flag. -/
structure Silent (number : Nat) (history : List (Event R N)) : Prop where
  swapped : .swapped number ∉ history
  ended : ∀ which ending, .ended number which ending ∉ history

/-- The event tells how far the worker of the job has come. -/
def Event.marks (number : Nat) : Event R N → Bool
  | .swapped other => other == number
  | .ended other _ _ => other == number
  | _ => false

/-- Each outcome is delivered while its job is the one accepted last. -/
def DeliveredLatest (history : List (Event R N)) : Prop :=
  ∀ before after number outcome, history = before ++ .delivered number outcome :: after →
    (acceptedJobs before).getLast? = some number

/-! ## Appending an event -/

variable {history : List (Event R N)} {event : Event R N} {number : Nat} {outcome : Outcome R}

theorem storedSinceReset_snoc :
    StoredSinceReset number (history ++ [event]) ↔
      StoredSinceReset number history ∨ event = .stored ∧ .reset number ∈ history := by
  have split : List.Sublist ([Event.reset number] ++ [.stored]) (history ++ [event]) ↔ _ :=
    sublist_snoc_iff
  simp only [List.singleton_append, List.singleton_sublist] at split
  rw [StoredSinceReset, split, StoredSinceReset, eq_comm (a := Event.stored)]

theorem storedInFlight_snoc :
    StoredInFlight number (history ++ [event]) ↔
      StoredInFlight number history ∨
        event = .swapped number ∧ StoredSinceReset number history := by
  have split : List.Sublist ([Event.reset number, .stored] ++ [.swapped number])
      (history ++ [event]) ↔ _ := sublist_snoc_iff
  simp only [List.cons_append, List.nil_append] at split
  rw [StoredInFlight, split, StoredInFlight, StoredSinceReset,
    eq_comm (a := Event.swapped number)]

theorem ne_swapped_of_unmarked (unmarked : event.marks number = false) :
    event ≠ .swapped number := by
  rintro rfl
  simp [Event.marks] at unmarked

theorem ne_ended_of_unmarked (unmarked : event.marks number = false) (which : Closure)
    (ending : Ending R) : event ≠ .ended number which ending := by
  rintro rfl
  simp [Event.marks] at unmarked

theorem storedSinceReset_snoc_of_ne (other : event ≠ .stored) :
    StoredSinceReset number (history ++ [event]) ↔ StoredSinceReset number history := by
  rw [storedSinceReset_snoc]
  simp [other]

theorem storedInFlight_snoc_of_unmarked (unmarked : event.marks number = false) :
    StoredInFlight number (history ++ [event]) ↔ StoredInFlight number history := by
  rw [storedInFlight_snoc]
  simp [ne_swapped_of_unmarked unmarked]

theorem Silent.snoc (silent : Silent number history) (unmarked : event.marks number = false) :
    Silent number (history ++ [event]) := by
  constructor
  · simp [silent.swapped, Ne.symm (ne_swapped_of_unmarked unmarked)]
  · intro which ending
    simp [silent.ended which ending, Ne.symm (ne_ended_of_unmarked unmarked which ending)]

/-- Once the worker has left its closures, later events do not change what the
history says about its job. -/
theorem Attributed.snoc (attributed : Attributed number outcome history)
    (unmarked : event.marks number = false) :
    Attributed number outcome (history ++ [event]) := by
  have same : ∀ which ending, Event.ended number which ending ∈ history ++ [event] ↔
      Event.ended number which ending ∈ history := by
    intro which ending
    simp [Ne.symm (ne_ended_of_unmarked unmarked which ending)]
  have flight : StoredInFlight number (history ++ [event]) ↔ StoredInFlight number history :=
    storedInFlight_snoc_of_unmarked unmarked
  constructor
  · intro panicked
    rw [attributed.panic]
    simp only [same]
  · intro result ok
    simp only [same, flight]
    exact attributed.value result ok

theorem DeliveredLatest.snoc (latest : DeliveredLatest history)
    (delivered : ∀ number outcome, event = .delivered number outcome →
      (acceptedJobs history).getLast? = some number) :
    DeliveredLatest (history ++ [event]) := by
  rintro before after number outcome split
  rcases List.eq_nil_or_concat after with rfl | ⟨front, last, rfl⟩
  · have both := List.append_inj' split rfl
    rcases both with ⟨rfl, same⟩
    exact delivered number outcome (List.singleton_inj.mp same)
  · have regroup : before ++ .delivered number outcome :: (front.concat last) =
        (before ++ .delivered number outcome :: front) ++ [last] := by simp
    rw [regroup] at split
    exact latest before front number outcome (List.append_inj' split rfl).1

/-! ## Appending several events -/

/-- What survives one event of a kind survives several of them. -/
theorem append_of_snoc (inv : List (Event R N) → Prop) (kind : Event R N → Prop)
    (snoc : ∀ {history event}, inv history → kind event → inv (history ++ [event]))
    {events : List (Event R N)} (initial : inv history)
    (all : ∀ event ∈ events, kind event) : inv (history ++ events) := by
  induction events using List.reverseRecOn with
  | nil => simpa using initial
  | append_singleton events event ih =>
      rw [← List.append_assoc]
      apply snoc
      · exact ih fun earlier present => all earlier (List.mem_append_left _ present)
      · exact all event (by simp)

theorem acceptedJobs_append_of_none {events : List (Event R N)}
    (others : ∀ event ∈ events, event.acceptedJob = none) :
    acceptedJobs (history ++ events) = acceptedJobs history := by
  rw [acceptedJobs, List.filterMap_append, List.filterMap_eq_nil_iff.mpr others,
    List.append_nil, acceptedJobs]

theorem deliveredJobs_append_of_none {events : List (Event R N)}
    (others : ∀ event ∈ events, event.deliveredJob = none) :
    deliveredJobs (history ++ events) = deliveredJobs history := by
  rw [deliveredJobs, List.filterMap_append, List.filterMap_eq_nil_iff.mpr others,
    List.append_nil, deliveredJobs]

/-! ## What the history says at each stage of a worker -/

/-- What the history says about a job whose worker stands at this stage.  The
flag is what the events since the reset leave in it. -/
def StageLaw (interrupted : Bool) (history : List (Event R N)) (number : Nat) :
    WorkerStage J R → Prop
  | .locking _ | .job _ =>
      Silent number history ∧ .reset number ∈ history ∧
        (interrupted = true ↔ StoredSinceReset number history)
  | .swapping result =>
      .swapped number ∉ history ∧ .reset number ∈ history ∧
        (interrupted = true ↔ StoredSinceReset number history) ∧
        ∀ which ending, .ended number which ending ∈ history ↔
          which = .job ∧ ending = .returned result
  | .onInterrupt _ =>
      StoredInFlight number history ∧
        ∀ which payload, .ended number which (.panicked payload) ∉ history
  | .unlocking outcome | .dropping outcome | .clearing outcome | .sending outcome =>
      Attributed number outcome history
  | .done => True

variable {interrupted : Bool}

/-- An event that neither marks the job nor stores the flag keeps the law. -/
theorem StageLaw.snoc {stage : WorkerStage J R} (law : StageLaw interrupted history number stage)
    (unmarked : event.marks number = false) (other : event ≠ .stored) :
    StageLaw interrupted (history ++ [event]) number stage := by
  have since : StoredSinceReset number (history ++ [event]) ↔ StoredSinceReset number history :=
    storedSinceReset_snoc_of_ne other
  have ended : ∀ which ending, Event.ended number which ending ∈ history ++ [event] ↔
      Event.ended number which ending ∈ history := by
    intro which ending
    simp [Ne.symm (ne_ended_of_unmarked unmarked which ending)]
  have swapped : Event.swapped number ∈ history ++ [event] ↔ .swapped number ∈ history := by
    simp [Ne.symm (ne_swapped_of_unmarked unmarked)]
  cases stage with
  | locking job =>
      rcases law with ⟨silent, reset, flag⟩
      exact ⟨silent.snoc unmarked, List.mem_append_left _ reset, flag.trans since.symm⟩
  | job closure =>
      rcases law with ⟨silent, reset, flag⟩
      exact ⟨silent.snoc unmarked, List.mem_append_left _ reset, flag.trans since.symm⟩
  | swapping result =>
      rcases law with ⟨unswapped, reset, flag, only⟩
      refine ⟨?_, List.mem_append_left _ reset, flag.trans since.symm, ?_⟩
      · rw [swapped]
        exact unswapped
      · intro which ending
        rw [ended]
        exact only which ending
  | onInterrupt closure =>
      rcases law with ⟨stored, calm⟩
      refine ⟨(storedInFlight_snoc_of_unmarked unmarked).mpr stored, ?_⟩
      intro which payload
      rw [ended]
      exact calm which payload
  | unlocking outcome => exact Attributed.snoc law unmarked
  | dropping outcome => exact Attributed.snoc law unmarked
  | clearing outcome => exact Attributed.snoc law unmarked
  | sending outcome => exact Attributed.snoc law unmarked
  | done => trivial

/-- Storing the flag keeps the law. -/
theorem StageLaw.stored {stage : WorkerStage J R}
    (law : StageLaw interrupted history number stage) :
    StageLaw true (history ++ [.stored]) number stage := by
  have unmarked : (Event.stored : Event R N).marks number = false := rfl
  have since : .reset number ∈ history →
      (true = true ↔ StoredSinceReset number (history ++ [Event.stored])) := by
    intro reset
    rw [storedSinceReset_snoc]
    simp [reset]
  cases stage with
  | locking job =>
      rcases law with ⟨silent, reset, _⟩
      exact ⟨silent.snoc unmarked, List.mem_append_left _ reset, since reset⟩
  | job closure =>
      rcases law with ⟨silent, reset, _⟩
      exact ⟨silent.snoc unmarked, List.mem_append_left _ reset, since reset⟩
  | swapping result =>
      rcases law with ⟨unswapped, reset, _, only⟩
      refine ⟨?_, List.mem_append_left _ reset, since reset, ?_⟩
      · simpa using unswapped
      · simpa using only
  | onInterrupt closure =>
      rcases law with ⟨stored, calm⟩
      refine ⟨(storedInFlight_snoc_of_unmarked unmarked).mpr stored, ?_⟩
      simpa using calm
  | unlocking outcome => exact Attributed.snoc law unmarked
  | dropping outcome => exact Attributed.snoc law unmarked
  | clearing outcome => exact Attributed.snoc law unmarked
  | sending outcome => exact Attributed.snoc law unmarked
  | done => trivial

/-- The notes of a closure keep the law. -/
theorem StageLaw.notes {stage : WorkerStage J R} (author : Nat) (notes : List N)
    (law : StageLaw interrupted history number stage) :
    StageLaw interrupted (history ++ notes.map (Event.jobNote author)) number stage := by
  induction notes using List.reverseRecOn with
  | nil => simpa using law
  | append_singleton notes note ih =>
      rw [List.map_append, List.map_singleton, ← List.append_assoc]
      exact ih.snoc rfl (by simp)

/-- The end of a closure leads to the law of the stage after it. -/
theorem StageLaw.ended {which : Closure} {closure : J} (ending : Ending R)
    (law : StageLaw interrupted history number
      (Runner.insideClosure which closure : WorkerStage J R)) :
    StageLaw interrupted (history ++ [.ended number which ending]) number
      (Runner.afterClosure which ending : WorkerStage J R) := by
  have other : Event.ended number which ending ≠ (.stored : Event R N) := by simp
  cases which with
  | job =>
      rcases law with ⟨silent, reset, flag⟩
      have mem : ∀ which' ending', Event.ended number which' ending' ∈
          history ++ [Event.ended number .job ending] ↔ which' = .job ∧ ending' = ending := by
        intro which' ending'
        simp [silent.ended which' ending']
      cases ending with
      | returned result =>
          refine ⟨?_, List.mem_append_left _ reset,
            flag.trans (storedSinceReset_snoc_of_ne other).symm, mem⟩
          simp [silent.swapped]
      | panicked payload =>
          constructor
          · intro panicked
            simp only [mem, Outcome.panic.injEq]
            constructor
            · rintro rfl
              exact ⟨.job, payload, ⟨rfl, rfl⟩, rfl⟩
            · rintro ⟨which', payload', ⟨_, same⟩, rfl⟩
              rw [Ending.panicked.inj same]
          · rintro result ok
            contradiction
  | onInterrupt =>
      rcases law with ⟨stored, calm⟩
      have flight : StoredInFlight number
          (history ++ [Event.ended number .onInterrupt ending]) := by
        rw [storedInFlight_snoc]
        exact Or.inl stored
      have panics : ∀ which' payload', Event.ended number which' (.panicked payload') ∈
          history ++ [Event.ended number .onInterrupt ending] ↔
            which' = .onInterrupt ∧ .panicked payload' = ending := by
        intro which' payload'
        simp [calm which' payload']
      cases ending with
      | returned result =>
          constructor
          · intro panicked
            simp [panics]
          · rintro result' ok
            left
            rw [Outcome.ok.injEq] at ok
            exact ⟨flight, by simp [ok]⟩
      | panicked payload =>
          constructor
          · intro panicked
            simp only [panics, Outcome.panic.injEq]
            constructor
            · rintro rfl
              exact ⟨.onInterrupt, payload, ⟨rfl, rfl⟩, rfl⟩
            · rintro ⟨which', payload', ⟨_, same⟩, rfl⟩
              rw [Ending.panicked.inj same]
          · rintro result ok
            contradiction

/-- The swap decides between the two results. -/
theorem StageLaw.swap {result : R} (after : J)
    (law : StageLaw interrupted history number (.swapping result : WorkerStage J R)) :
    StageLaw false (history ++ [.swapped number]) number
      (if interrupted then .onInterrupt after else .unlocking (.ok result)) := by
  rcases law with ⟨unswapped, _, flag, only⟩
  have mem : ∀ which ending, Event.ended number which ending ∈
      history ++ [Event.swapped number] ↔ which = .job ∧ ending = .returned result := by
    intro which ending
    simp [only which ending]
  have flight : StoredInFlight number (history ++ [Event.swapped number]) ↔
      StoredSinceReset number history := by
    rw [storedInFlight_snoc]
    constructor
    · rintro (stored | ⟨_, stored⟩)
      · exact absurd (stored.subset (by simp)) unswapped
      · exact stored
    · exact fun stored => Or.inr ⟨rfl, stored⟩
  cases interrupted with
  | true =>
      refine ⟨flight.mpr (flag.mp rfl), ?_⟩
      intro which payload
      simp [mem]
  | false =>
      constructor
      · intro panicked
        simp [mem]
      · rintro result' ok
        right
        rw [Outcome.ok.injEq] at ok
        refine ⟨?_, by simp [mem], by simp [mem, ok]⟩
        intro stored
        exact Bool.false_ne_true (flag.mpr (flight.mp stored))

end TtdGdbserver.Gdb
