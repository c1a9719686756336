import Mathlib.Data.List.TakeWhile
import TtdGdbserver.Target.Threads

/-!
# Trace-global metadata

One snapshot of the engine's tables, taken when the trace is opened.
-/

namespace TtdGdbserver.Target

open TtdGdbserver.Ttd

/-- A thread that ran in the trace, by both of its ids. -/
structure ThreadDiagnostics where
  uniqueId : UInt32
  osThreadId : UInt32
  deriving DecidableEq, Repr

/-- The tables that the target layer queries. -/
structure TraceMetadata where
  firstPosition : TtdPosition
  lastPosition : TtdPosition
  threads : ThreadTable
  threadDiagnostics : List ThreadDiagnostics
  exceptions : List TtdExceptionEvent

namespace TraceMetadata

/-- Build from the engine's tables.  The exception events are sorted by
position, stably. -/
def new (threads : List TtdThreadInfo) (exceptions : List TtdExceptionEvent)
    (firstPosition lastPosition : TtdPosition) : TraceMetadata where
  firstPosition := firstPosition
  lastPosition := lastPosition
  threads := .fromEngineThreads threads
  threadDiagnostics := threads.map fun thread => ⟨thread.uniqueId, thread.id⟩
  exceptions := exceptions.mergeSort fun first second =>
    decide (first.position ≤ second.position)

/-- The trace's first and last position. -/
def lifetime (metadata : TraceMetadata) : TtdPosition × TtdPosition :=
  (metadata.firstPosition, metadata.lastPosition)

/-- The first OS tid in TTD's lifetime order. -/
def firstOsTid (metadata : TraceMetadata) : Option UInt64 :=
  metadata.threadDiagnostics.head?.map fun thread => thread.osThreadId.toUInt64

/-- The recorded exception event for a position: the last one of its sequence
at or before it. -/
def exceptionAt (metadata : TraceMetadata) (position : TtdPosition) :
    Option TtdExceptionEvent :=
  ((metadata.exceptions.takeWhile fun event => decide (event.position ≤ position)).filter
    fun event => event.position.sequence == position.sequence).getLast?

/-- The recorded exception code at a position. -/
def exceptionCodeAt (metadata : TraceMetadata) (position : TtdPosition) : Option UInt32 :=
  (metadata.exceptionAt position).map TtdExceptionEvent.code

/-! ## Looking an exception up -/

theorem mem_exceptions {threads : List TtdThreadInfo} {exceptions : List TtdExceptionEvent}
    {firstPosition lastPosition : TtdPosition} {event : TtdExceptionEvent} :
    event ∈ (new threads exceptions firstPosition lastPosition).exceptions ↔
      event ∈ exceptions :=
  List.mem_mergeSort

theorem pairwise_exceptions (threads : List TtdThreadInfo) (exceptions : List TtdExceptionEvent)
    (firstPosition lastPosition : TtdPosition) :
    (new threads exceptions firstPosition lastPosition).exceptions.Pairwise
      fun first second => first.position ≤ second.position := by
  have trans (first second third : TtdExceptionEvent)
      (left : decide (first.position ≤ second.position) = true)
      (right : decide (second.position ≤ third.position) = true) :
      decide (first.position ≤ third.position) = true :=
    decide_eq_true (le_trans (of_decide_eq_true left) (of_decide_eq_true right))
  have total (first second : TtdExceptionEvent) :
      (decide (first.position ≤ second.position) ||
        decide (second.position ≤ first.position)) = true := by
    simpa using le_total first.position second.position
  exact (List.pairwise_mergeSort trans total exceptions).imp of_decide_eq_true

/-- In a sorted list nothing up to a bound comes after something beyond it. -/
theorem mem_takeWhile_le {events : List TtdExceptionEvent}
    (sorted : events.Pairwise fun first second => first.position ≤ second.position)
    {event : TtdExceptionEvent} (mem : event ∈ events) {bound : TtdPosition}
    (within : event.position ≤ bound) :
    event ∈ events.takeWhile fun event => decide (event.position ≤ bound) := by
  induction sorted with
  | nil => simp at mem
  | @cons first rest before _ ih =>
      have firstWithin : first.position ≤ bound := by
        rcases List.mem_cons.mp mem with rfl | later
        · exact within
        · exact le_trans (before event later) within
      have kept : decide (first.position ≤ bound) = true := decide_eq_true firstWithin
      rw [List.takeWhile_cons, if_pos kept]
      rcases List.mem_cons.mp mem with rfl | later
      · exact List.mem_cons_self ..
      · exact List.mem_cons_of_mem _ (ih later)

/-- Nothing in a sorted list is later than its last element. -/
theorem le_of_getLast? {events : List TtdExceptionEvent}
    (sorted : events.Pairwise fun first second => first.position ≤ second.position)
    {last : TtdExceptionEvent} (found : events.getLast? = some last)
    {event : TtdExceptionEvent} (mem : event ∈ events) : event.position ≤ last.position := by
  obtain ⟨front, rfl⟩ := List.getLast?_eq_some_iff.mp found
  rcases List.mem_append.mp mem with earlier | here
  · exact (List.pairwise_append.mp sorted).2.2 event earlier last (List.mem_singleton_self last)
  · rw [List.mem_singleton.mp here]

/-- The last of a sorted list is its only greatest element. -/
theorem getLast?_of_greatest {events : List TtdExceptionEvent}
    (sorted : events.Pairwise fun first second => first.position ≤ second.position)
    {event : TtdExceptionEvent} (mem : event ∈ events)
    (greatest : ∀ other ∈ events, other.position ≤ event.position)
    (alone : ∀ other ∈ events, other.position = event.position → other = event) :
    events.getLast? = some event := by
  obtain ⟨last, found⟩ : ∃ last, events.getLast? = some last :=
    Option.ne_none_iff_exists'.mp (by simpa using List.ne_nil_of_mem mem)
  have lastMem : last ∈ events := List.mem_of_getLast? found
  have below : event.position ≤ last.position := le_of_getLast? sorted found mem
  rw [found, alone last lastMem (le_antisymm (greatest last lastMem) below)]

/-- What `exceptionAt` picks its answer from: the recorded events of the
position's sequence that are not later than it. -/
theorem mem_candidates {events : List TtdExceptionEvent}
    (sorted : events.Pairwise fun first second => first.position ≤ second.position)
    (position : TtdPosition) (event : TtdExceptionEvent) :
    event ∈ (events.takeWhile fun event => decide (event.position ≤ position)).filter
        (fun event => event.position.sequence == position.sequence) ↔
      event ∈ events ∧ event.position.sequence = position.sequence ∧
        event.position ≤ position := by
  rw [List.mem_filter, beq_iff_eq]
  constructor
  · rintro ⟨taken, sequence⟩
    have within := List.mem_takeWhile_imp taken
    exact ⟨(List.takeWhile_sublist _).mem taken, sequence, of_decide_eq_true within⟩
  · rintro ⟨recorded, sequence, within⟩
    exact ⟨mem_takeWhile_le sorted recorded within, sequence⟩

theorem pairwise_candidates {events : List TtdExceptionEvent}
    (sorted : events.Pairwise fun first second => first.position ≤ second.position)
    (position : TtdPosition) :
    ((events.takeWhile fun event => decide (event.position ≤ position)).filter
        fun event => event.position.sequence == position.sequence).Pairwise
      fun first second => first.position ≤ second.position :=
  (sorted.sublist (List.takeWhile_sublist _)).filter _

/-- `event` precedes `position` in its sequence, and no recorded event does so
more closely. -/
structure Nearest (exceptions : List TtdExceptionEvent) (position : TtdPosition)
    (event : TtdExceptionEvent) : Prop where
  recorded : event ∈ exceptions
  sequence : event.position.sequence = position.sequence
  notLater : event.position ≤ position
  latest : ∀ other ∈ exceptions, other.position.sequence = position.sequence →
    other.position ≤ position → other.position ≤ event.position

/-- The lookup is exact for any recording: it fails only where nothing of the
sequence precedes the position, and finds a nearest event otherwise. -/
theorem exceptionAt_nearest (threads : List TtdThreadInfo)
    (exceptions : List TtdExceptionEvent) (firstPosition lastPosition position : TtdPosition) :
    ((new threads exceptions firstPosition lastPosition).exceptionAt position = none ↔
      ¬ ∃ event ∈ exceptions, event.position.sequence = position.sequence ∧
        event.position ≤ position) ∧
    ∀ event, (new threads exceptions firstPosition lastPosition).exceptionAt position =
      some event → Nearest exceptions position event := by
  have sorted := pairwise_exceptions threads exceptions firstPosition lastPosition
  have candidates := mem_candidates sorted position
  simp only [mem_exceptions] at candidates
  constructor
  · rw [exceptionAt, List.getLast?_eq_none_iff, List.eq_nil_iff_forall_not_mem]
    simp only [candidates, not_exists]
  · intro event found
    obtain ⟨recorded, sequence, notLater⟩ :=
      (candidates event).mp (List.mem_of_getLast? found)
    refine ⟨recorded, sequence, notLater, fun other otherRecorded same before => ?_⟩
    exact le_of_getLast? (pairwise_candidates sorted position) found
      ((candidates other).mpr ⟨otherRecorded, same, before⟩)

/-- The event recorded at the position itself is the one that is found, if it
is the only one there. -/
theorem exceptionAt_of_mem {threads : List TtdThreadInfo} {exceptions : List TtdExceptionEvent}
    {firstPosition lastPosition : TtdPosition} {event : TtdExceptionEvent}
    (recorded : event ∈ exceptions)
    (alone : ∀ other ∈ exceptions, other.position = event.position → other = event) :
    (new threads exceptions firstPosition lastPosition).exceptionAt event.position =
      some event := by
  have sorted := pairwise_exceptions threads exceptions firstPosition lastPosition
  have candidates := mem_candidates sorted event.position
  simp only [mem_exceptions] at candidates
  refine getLast?_of_greatest (pairwise_candidates sorted event.position) ?_ ?_ ?_
  · exact (candidates event).mpr ⟨recorded, rfl, le_rfl⟩
  · intro other mem
    exact ((candidates other).mp mem).2.2
  · intro other mem
    exact alone other ((candidates other).mp mem).1

end TraceMetadata

end TtdGdbserver.Target
