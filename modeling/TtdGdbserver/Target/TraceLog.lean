import Mathlib.Data.List.Pairwise
import TtdGdbserver.Target.Process.Transparent
import TtdGdbserver.Target.ThreadFilter
import TtdGdbserver.Transition.Scan

/-!
# Engines that play a log

What the recorded program did, as a list of events: the memory accesses and
exceptions of its threads, each at a position.  An engine plays the log if a
replay call goes through the events ahead of the cursor in the direction of
travel, halts at the exceptions it is subscribed to, and asks the callback about
the accesses that its watchpoints deliver.
-/

namespace TtdGdbserver.Target

open TtdGdbserver.Ttd TtdGdbserver.Transition

/-! ## Logs -/

/-- The classes that TTD files exceptions under. -/
inductive ExceptionClass where
  | hardware
  | software
  | cPlusPlus
  | debugPrint
  deriving DecidableEq, Repr

/-- The bit of the exception mask that a class stands for. -/
def ExceptionClass.mask : ExceptionClass → ExceptionMask
  | hardware => .hardware
  | software => .software
  | cPlusPlus => .cPlusPlus
  | debugPrint => .debugPrint

/-- What happened: an access with its raw kind, or an exception. -/
inductive Occurrence where
  | access (address size : UInt64) (access : UInt8)
  | exception (class_ : ExceptionClass) (code : UInt32) (recordAddress programCounter : UInt64)
  deriving DecidableEq, Repr

/-- What was recorded at a position, and on which thread. -/
structure TraceEvent where
  position : TtdPosition
  thread : TtdThreadInfo
  occurrence : Occurrence
  deriving DecidableEq, Repr

namespace TraceEvent

/-- The event is an exception. -/
def isException (event : TraceEvent) : Bool :=
  match event.occurrence with
  | .access .. => false
  | .exception .. => true

/-- The event that a replay call reports when it halts there. -/
def eventType (event : TraceEvent) : EventType :=
  if event.isException then .exception else .memoryWatchpoint

/-- The call of the watchpoint callback for an access. -/
def hit (event : TraceEvent) : Option WatchpointHit :=
  match event.occurrence with
  | .access address size access => some ⟨address, size, access, event.thread.id, none⟩
  | .exception .. => none

/-- The entry of the exception list for an exception. -/
def catalogued (event : TraceEvent) : Option TtdExceptionEvent :=
  match event.occurrence with
  | .access .. => none
  | .exception _ code recordAddress programCounter =>
      some ⟨event.position, code, recordAddress, programCounter⟩

/-- What may happen at one position: accesses of one thread.  An exception is
alone at its position. -/
structure Together (first second : TraceEvent) : Prop where
  thread : first.thread = second.thread
  first : first.isException = false
  second : second.isException = false

instance (first second : TraceEvent) : Decidable (Together first second) :=
  decidable_of_iff
    (first.thread = second.thread ∧ first.isException = false ∧ second.isException = false)
    ⟨fun ⟨thread, first, second⟩ => ⟨thread, first, second⟩,
      fun together => ⟨together.thread, together.first, together.second⟩⟩

theorem Together.symm {first second : TraceEvent} (together : Together first second) :
    Together second first :=
  ⟨together.thread.symm, together.second, together.first⟩

/-- Two neighbours of a log. -/
structure InOrder (first second : TraceEvent) : Prop where
  notLater : first.position ≤ second.position
  together : first.position = second.position → Together first second

instance (first second : TraceEvent) : Decidable (InOrder first second) :=
  decidable_of_iff
    (first.position ≤ second.position ∧
      (first.position = second.position → Together first second))
    ⟨fun ⟨notLater, together⟩ => ⟨notLater, together⟩,
      fun inOrder => ⟨inOrder.notLater, inOrder.together⟩⟩

end TraceEvent

/-- The events of a recording, in order. -/
structure TraceLog where
  events : List TraceEvent
  ordered : events.Pairwise TraceEvent.InOrder

namespace TraceLog

/-- The exception list of the recording. -/
def exceptions (log : TraceLog) : List TtdExceptionEvent :=
  log.events.filterMap TraceEvent.catalogued

/-- The event lies beyond the start and not beyond the limit. -/
def IsAhead (forward : Bool) (start limit : TtdPosition) (event : TraceEvent) : Prop :=
  Beyond forward start event.position ∧ ¬Beyond forward limit event.position

instance (forward : Bool) (start limit : TtdPosition) (event : TraceEvent) :
    Decidable (IsAhead forward start limit event) :=
  inferInstanceAs (Decidable (_ ∧ _))

/-- The events in the order in which they are come across. -/
def travelled (log : TraceLog) (forward : Bool) : List TraceEvent :=
  if forward then log.events else log.events.reverse

/-- What a replay from `start` to `limit` comes across. -/
def ahead (log : TraceLog) (forward : Bool) (start limit : TtdPosition) : List TraceEvent :=
  (log.travelled forward).filter fun event => decide (IsAhead forward start limit event)

@[simp]
theorem mem_travelled {log : TraceLog} {forward : Bool} {event : TraceEvent} :
    event ∈ log.travelled forward ↔ event ∈ log.events := by
  cases forward <;> simp [travelled]

theorem mem_ahead {log : TraceLog} {forward : Bool} {start limit : TtdPosition}
    {event : TraceEvent} :
    event ∈ log.ahead forward start limit ↔
      event ∈ log.events ∧ IsAhead forward start limit event := by
  simp [ahead]

theorem length_ahead_le (log : TraceLog) (forward : Bool) (start limit : TtdPosition) :
    (log.ahead forward start limit).length ≤ log.events.length := by
  refine (List.length_filter_le _ _).trans_eq ?_
  cases forward <;> simp [travelled]

/-- An event and a later one in the direction of travel. -/
structure InTravel (forward : Bool) (first second : TraceEvent) : Prop where
  notBeyond : ¬Beyond forward second.position first.position
  together : first.position = second.position → TraceEvent.Together first second

theorem pairwise_travelled (log : TraceLog) (forward : Bool) :
    (log.travelled forward).Pairwise (InTravel forward) := by
  cases forward with
  | true =>
      refine log.ordered.imp fun inOrder => ⟨?_, inOrder.together⟩
      exact not_lt.mpr inOrder.notLater
  | false =>
      refine List.pairwise_reverse.mpr (log.ordered.imp fun inOrder => ⟨?_, ?_⟩)
      · exact not_lt.mpr inOrder.notLater
      · intro same
        exact (inOrder.together same.symm).symm

/-- Behind an exception comes what was behind it before. -/
theorem ahead_exception {log : TraceLog} {forward : Bool} {start limit : TtdPosition}
    {before after : List TraceEvent} {event : TraceEvent}
    (split : log.ahead forward start limit = before ++ event :: after)
    (exception : event.isException = true) :
    log.ahead forward event.position limit = after := by
  obtain ⟨front, rest, whole, frontEq, restEq⟩ := List.filter_eq_append_iff.mp split
  obtain ⟨skipped, back, restWhole, passed, aheadEvent, backEq⟩ :=
    List.filter_eq_cons_iff.mp restEq
  have isAhead : IsAhead forward start limit event := of_decide_eq_true aheadEvent
  have ordered := log.pairwise_travelled forward
  rw [whole, restWhole, ← List.append_assoc, List.append_cons] at ordered
  obtain ⟨-, behindOrder, frontOrder⟩ := List.pairwise_append.mp ordered
  have earlier : ∀ other ∈ front ++ skipped ++ [event],
      ¬Beyond forward event.position other.position := by
    intro other member
    rcases List.mem_append.mp member with inFront | last
    · have split_ := List.pairwise_append.mp (List.pairwise_append.mp ordered).1
      exact (split_.2.2 other inFront event (List.mem_singleton_self event)).notBeyond
    · rw [List.mem_singleton.mp last]
      exact fun beyond => beyond.ne rfl
  have later : ∀ other ∈ back, Beyond forward event.position other.position := by
    intro other member
    have inTravel := frontOrder event (by simp) other member
    rcases beyond_trichotomy forward event.position other.position with beyond | same | against
    · exact beyond
    · have access := (inTravel.together same).first
      rw [exception] at access
      contradiction
    · exact absurd against inTravel.notBeyond
  rw [ahead, whole, restWhole, ← List.append_assoc, List.append_cons, List.filter_append,
    List.filter_eq_nil_iff.mpr, List.nil_append, ← backEq]
  · apply List.filter_congr
    intro other member
    have beyond := later other member
    simp [IsAhead, beyond, isAhead.1.trans beyond]
  · intro other member
    simp [IsAhead, earlier other member]

/-! ## The exception list -/

theorem mem_exceptions {log : TraceLog} {entry : TtdExceptionEvent} :
    entry ∈ log.exceptions ↔ ∃ event ∈ log.events, event.catalogued = some entry := by
  simp [exceptions, List.mem_filterMap]

end TraceLog

theorem TraceEvent.position_catalogued {event : TraceEvent} {entry : TtdExceptionEvent}
    (catalogued : event.catalogued = some entry) :
    entry.position = event.position ∧ event.isException = true := by
  unfold TraceEvent.catalogued at catalogued
  unfold TraceEvent.isException
  split at catalogued
  · contradiction
  · cases catalogued
    exact ⟨rfl, rfl⟩

namespace TraceLog

/-- Distinct events at one position are accesses of one thread. -/
theorem together_of_mem (log : TraceLog) {first second : TraceEvent}
    (firstMem : first ∈ log.events) (secondMem : second ∈ log.events)
    (distinct : first ≠ second) (same : first.position = second.position) :
    TraceEvent.Together first second := by
  have symmetric : Std.Symm fun first second : TraceEvent =>
      first.position = second.position → TraceEvent.Together first second :=
    ⟨fun _ _ together same => (together same.symm).symm⟩
  exact (log.ordered.imp fun inOrder => inOrder.together).forall firstMem secondMem distinct same

/-- The exception list has one entry at the position of an exception. -/
theorem single_exception (log : TraceLog) {event : TraceEvent} {entry other : TtdExceptionEvent}
    (recorded : event ∈ log.events) (catalogued : event.catalogued = some entry)
    (listed : other ∈ log.exceptions) (same : other.position = entry.position) :
    other = entry := by
  obtain ⟨elsewhere, elsewhereMem, elsewhereEntry⟩ := mem_exceptions.mp listed
  have here := TraceEvent.position_catalogued catalogued
  have there := TraceEvent.position_catalogued elsewhereEntry
  by_cases distinct : elsewhere = event
  · subst distinct
    exact Option.some.inj (elsewhereEntry.symm.trans catalogued)
  · have together := log.together_of_mem elsewhereMem recorded distinct
      (there.1.symm.trans (same.trans here.1))
    have access := together.second
    rw [here.2] at access
    contradiction

/-- So the catalog has it there. -/
theorem exceptionAt_catalogued (log : TraceLog) {event : TraceEvent} {entry : TtdExceptionEvent}
    (recorded : event ∈ log.events) (catalogued : event.catalogued = some entry)
    (threads : List TtdThreadInfo) (firstPosition lastPosition : TtdPosition) :
    (TraceMetadata.new threads log.exceptions firstPosition lastPosition).exceptionAt
      event.position = some entry := by
  rw [← (TraceEvent.position_catalogued catalogued).1]
  exact TraceMetadata.exceptionAt_of_mem (mem_exceptions.mpr ⟨event, recorded, catalogued⟩)
    fun other listed same => log.single_exception recorded catalogued listed same

end TraceLog

/-! ## Subscriptions -/

/-- What a cursor is set up to stop at. -/
structure Subscription where
  watchpoints : WatchpointSet
  events : EventMask
  exceptions : ExceptionMask

/-- The event mask of the SDK's cursors has the given kind of event. -/
def admitsEvent (mask kind : EventMask) : Bool :=
  mask.bits &&& kind.bits != 0

/-- The exception mask has the class. -/
def admitsException (mask : ExceptionMask) (class_ : ExceptionClass) : Bool :=
  mask.bits &&& class_.mask.bits != 0

namespace Subscription

/-- A watchpoint delivers the access. -/
def watches (subscription : Subscription) (event : TraceEvent) : Bool :=
  match event.occurrence with
  | .access address size access =>
      admitsEvent subscription.events .memoryWatchpoint &&
        subscription.watchpoints.toList.any fun key =>
          decide (key.Delivers event.thread address size (.ofU8 access))
  | .exception .. => false

/-- The exception is one to stop at. -/
def haltsAt (subscription : Subscription) (event : TraceEvent) : Bool :=
  match event.occurrence with
  | .access .. => false
  | .exception class_ _ _ _ =>
      admitsEvent subscription.events .exception &&
        admitsException subscription.exceptions class_

/-- How a subscribed cursor scans the events ahead of it. -/
def scan (subscription : Subscription) : Scan TraceEvent WatchpointHit where
  question := TraceEvent.hit
  watched := subscription.watches
  halts := subscription.haltsAt

end Subscription

/-- The masks of an SDK cursor are sticky, like its watchpoints: moving the cursor
leaves them alone. -/
class SdkSubscription (σ : Type) [SdkCursor σ] [SdkWatchpoints σ] where
  subscription : σ → Subscription
  watchpoints : ∀ cursor : σ, (subscription cursor).watchpoints = SdkWatchpoints.registered cursor
  setPosition : ∀ (cursor : σ) (position : TtdPosition),
    subscription (SdkCursor.setPosition cursor position) = subscription cursor
  replay : ∀ {τ : Type} (answer : τ → WatchpointHit → Bool × τ) (cursor : σ)
    (request : ReplayRequest) (state : τ),
    subscription ((SdkCursor.replay cursor request).run answer state).1.1 = subscription cursor
  setEventMask : ∀ (cursor : σ) (mask : EventMask),
    subscription (SdkCursor.setEventMask cursor mask) =
      { subscription cursor with events := mask }
  setExceptionMask : ∀ (cursor : σ) (mask : ExceptionMask),
    subscription (SdkCursor.setExceptionMask cursor mask) =
      { subscription cursor with exceptions := mask }

/-! ## Playing a log -/

/-- Where a replay call ends, and with which report: at an event and on its
thread, or at the limit, unless the cursor was there already. -/
def EndsAt {σ : Type} [SdkCursor σ] (cursor : σ) (request : ReplayRequest) :
    Option TraceEvent → σ × ReplayOutcome → Prop
  | some event, (moved, outcome) =>
      SdkCursor.getPosition moved = event.position ∧
        (SdkCursor.view moved).threadInfo.id = event.thread.id ∧
        outcome.stopReason = if event.isException then 2 else 0
  | none, (moved, outcome) =>
      SdkCursor.getPosition moved =
          (if Beyond request.forward (SdkCursor.getPosition cursor) request.limit then
            request.limit
          else SdkCursor.getPosition cursor) ∧
        outcome.stopReason = 6

/-- Every replay call without a bound on its steps scans the events ahead, as the
cursor is subscribed to them. -/
def PlaysLog (σ : Type) [SdkCursor σ] [SdkWatchpoints σ] [SdkSubscription σ] (log : TraceLog) :
    Prop :=
  ∀ (cursor : σ) (limit : TtdPosition) (forward : Bool),
    Dialogue.Scans (SdkSubscription.subscription cursor).scan
      (EndsAt cursor ⟨limit, stepCountMax, forward⟩)
      (log.ahead forward (SdkCursor.getPosition cursor) limit)
      (SdkCursor.replay cursor ⟨limit, stepCountMax, forward⟩)

/-! ## An engine over a log -/

/-- A cursor that plays the log and nothing else. -/
structure LogCursor (log : TraceLog) where
  at_ : TtdPosition
  subscription : Subscription

namespace LogCursor

variable {log : TraceLog}

/-- The cursor elsewhere. -/
def moveTo (cursor : LogCursor log) (position : TtdPosition) : LogCursor log :=
  { cursor with at_ := position }

/-- How a replay call ends. -/
def ending (cursor : LogCursor log) (request : ReplayRequest) :
    Option TraceEvent → LogCursor log × ReplayOutcome
  | some event =>
      (cursor.moveTo event.position,
        { (default : ReplayOutcome) with stopReason := if event.isException then 2 else 0 })
  | none =>
      (cursor.moveTo
          (if Beyond request.forward cursor.at_ request.limit then request.limit else cursor.at_),
        { (default : ReplayOutcome) with stopReason := 6 })

/-- A bounded replay call moves by that many steps within the sequence. -/
def replay (cursor : LogCursor log) (request : ReplayRequest) :
    Dialogue WatchpointHit Bool (LogCursor log × ReplayOutcome) :=
  if request.steps = stepCountMax then
    .ofScan cursor.subscription.scan (cursor.ending request)
      (log.ahead request.forward cursor.at_ request.limit)
  else
    let steps :=
      if request.forward then cursor.at_.steps + request.steps
      else cursor.at_.steps - request.steps
    .done (cursor.moveTo ⟨cursor.at_.sequence, steps⟩,
      { (default : ReplayOutcome) with stopReason := 5 })

/-- The thread of what happens at a position. -/
def threadAt (log : TraceLog) (position : TtdPosition) : TtdThreadInfo :=
  ((log.events.find? fun event => event.position == position).map TraceEvent.thread).getD ⟨0, 0⟩

/-- What queries see: the recorded thread, and no memory. -/
def view (cursor : LogCursor log) : CursorView where
  queryMemory _ _ := ([], 0)
  queryMemoryWithRanges _ _ _ := ⟨[], 0, [], 0⟩
  threadInfo := threadAt log cursor.at_
  activeThreadCount := 0
  activeThreadAt _ := ⟨⟨0, 0⟩, cursor.at_⟩
  tebAddress _ := 0
  amd64Context _ := []

instance : SdkCursor (LogCursor log) where
  architecture := 9
  getPosition := at_
  setPosition := moveTo
  replay := replay
  setEventMask cursor mask :=
    { cursor with subscription := { cursor.subscription with events := mask } }
  setExceptionMask cursor mask :=
    { cursor with subscription := { cursor.subscription with exceptions := mask } }
  addMemoryWatchpoint cursor address size mask thread :=
    let watchpoints := cursor.subscription.watchpoints.insert ⟨address, size, mask, thread⟩
    (true, { cursor with subscription := { cursor.subscription with watchpoints := watchpoints } })
  removeMemoryWatchpoint cursor address size mask thread :=
    let watchpoints := cursor.subscription.watchpoints.erase ⟨address, size, mask, thread⟩
    (true, { cursor with subscription := { cursor.subscription with watchpoints := watchpoints } })
  view := view

instance : LawfulSdkCursor (LogCursor log) where
  round := id
  getPosition_setPosition _ _ := rfl
  round_getPosition _ := rfl
  getPosition_setEventMask _ _ := rfl
  getPosition_setExceptionMask _ _ := rfl
  getPosition_addMemoryWatchpoint _ _ _ _ _ := rfl
  getPosition_removeMemoryWatchpoint _ _ _ _ _ := rfl
  view_congr first second same := by
    have positions : first.at_ = second.at_ := same
    simp only [SdkCursor.view, view, positions]

instance : SdkWatchpoints (LogCursor log) where
  registered cursor := cursor.subscription.watchpoints
  registered_add _ _ := rfl
  registered_remove _ _ := rfl

instance : SdkSubscription (LogCursor log) where
  subscription := subscription
  watchpoints _ := rfl
  setPosition _ _ := rfl
  replay answer cursor request state := by
    simp only [SdkCursor.replay, replay]
    split
    · obtain ⟨stop, ended⟩ := Dialogue.run_ofScan answer (cursor.ending request)
        (log.ahead request.forward cursor.at_ request.limit) state
      rw [ended]
      cases stop <;> rfl
    · rfl
  setEventMask _ _ := rfl
  setExceptionMask _ _ := rfl

theorem threadAt_of_mem {event : TraceEvent} (recorded : event ∈ log.events) :
    threadAt log event.position = event.thread := by
  unfold threadAt
  cases found : log.events.find? fun other => other.position == event.position with
  | none =>
      have missed := List.find?_eq_none.mp found event recorded
      simp at missed
  | some other =>
      have same : other.position = event.position := by simpa using List.find?_some found
      by_cases distinct : other = event
      · rw [distinct]
        rfl
      · exact (log.together_of_mem (List.mem_of_find?_eq_some found) recorded distinct same).thread

theorem playsLog (log : TraceLog) : PlaysLog (LogCursor log) log := by
  intro cursor limit forward
  have unbounded : SdkCursor.replay cursor ⟨limit, stepCountMax, forward⟩ =
      .ofScan cursor.subscription.scan (cursor.ending ⟨limit, stepCountMax, forward⟩)
        (log.ahead forward cursor.at_ limit) := by
    simp [SdkCursor.replay, replay]
  rw [unbounded]
  refine Dialogue.scans_ofScan ⟨rfl, rfl⟩ ?_ ?_
  · intro event member
    exact ⟨rfl, congrArg TtdThreadInfo.id (threadAt_of_mem (TraceLog.mem_ahead.mp member).1), rfl⟩
  · intro event _ watched
    simp only [Subscription.scan, Subscription.watches, TraceEvent.hit] at watched ⊢
    cases occurs : event.occurrence with
    | access => rfl
    | exception => simp [occurs] at watched

end LogCursor

end TtdGdbserver.Target
