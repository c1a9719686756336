import TtdGdbserver.Target.Process.Execution
import TtdGdbserver.Ttd.Scripted

/-!
# Replaying past transparent exceptions

The loop of a continue asks the engine for one stop after the other until one
of them is no first-chance C++ exception.  An engine that never moves a cursor
against the direction of travel lets the loop end, since a turn that does not
advance is the last one.  If the engine reports every stop in turn, and the
catalog has one entry for each exception, the loop ends at the first stop that
a live debugger would report.
-/

namespace TtdGdbserver.Target

open TtdGdbserver.Ttd

/-- `second` is strictly beyond `first` in the direction of travel. -/
def Beyond (forward : Bool) (first second : TtdPosition) : Prop :=
  if forward then first < second else second < first

instance (forward : Bool) (first second : TtdPosition) :
    Decidable (Beyond forward first second) :=
  inferInstanceAs (Decidable (if forward then first < second else second < first))

theorem Beyond.trans {forward : Bool} {first second third : TtdPosition}
    (left : Beyond forward first second) (right : Beyond forward second third) :
    Beyond forward first third := by
  cases forward
  · exact lt_trans right left
  · exact lt_trans left right

theorem Beyond.ne {forward : Bool} {first second : TtdPosition}
    (beyond : Beyond forward first second) : first ≠ second := by
  cases forward
  · exact (ne_of_lt beyond).symm
  · exact ne_of_lt beyond

theorem beyond_trichotomy (forward : Bool) (first second : TtdPosition) :
    Beyond forward first second ∨ first = second ∨ Beyond forward second first := by
  cases forward
  · rcases lt_trichotomy first second with less | same | greater
    · exact .inr (.inr less)
    · exact .inr (.inl same)
    · exact .inl greater
  · exact lt_trichotomy first second

/-- How many positions lie before this one in the direction of travel. -/
def travelled (forward : Bool) (position : TtdPosition) : Nat :=
  if forward then position.rank else 2 ^ 128 - 1 - position.rank

theorem travelled_lt (forward : Bool) (position : TtdPosition) :
    travelled forward position < 2 ^ 128 := by
  have bound := position.rank_lt
  cases forward
  · simp only [travelled, Bool.false_eq_true, if_false]
    omega
  · exact bound

theorem Beyond.travelled_lt {forward : Bool} {first second : TtdPosition}
    (beyond : Beyond forward first second) :
    travelled forward first < travelled forward second := by
  have bound := first.rank_lt
  cases forward
  · have less := TtdPosition.lt_iff_rank.mp (show second < first from beyond)
    simp only [travelled, Bool.false_eq_true, if_false]
    omega
  · exact TtdPosition.lt_iff_rank.mp (show first < second from beyond)

/-! ## One turn -/

/-- A first-chance exception, by the code that the catalog has for where the
replay stopped. -/
def IsFirstChance (metadata : TraceMetadata) (position : TtdPosition) : Prop :=
  ∃ code, metadata.exceptionCodeAt position = some code ∧ firstChanceExceptionCodes.contains code

instance (metadata : TraceMetadata) (position : TtdPosition) :
    Decidable (IsFirstChance metadata position) :=
  decidable_of_iff ((metadata.exceptionCodeAt position).any firstChanceExceptionCodes.contains) (by
    rw [IsFirstChance, Option.any_eq_true])

/-- The loop goes on after a replay call: it stopped at a first-chance exception
that the previous call had not stopped at. -/
def PassesException (metadata : TraceMetadata) (previous : Option TtdPosition)
    (result : TtdReplayResult) (position : TtdPosition) : Prop :=
  result.stopReason = .exception ∧ previous ≠ some position ∧ IsFirstChance metadata position

instance (metadata : TraceMetadata) (previous : Option TtdPosition) (result : TtdReplayResult)
    (position : TtdPosition) : Decidable (PassesException metadata previous result position) :=
  inferInstanceAs (Decidable (_ ∧ _ ∧ _))

section Loop

variable {σ : Type} [SdkCursor σ] {τ : Type} {metadata : TraceMetadata} {limit : TtdPosition}
  {forward : Bool} {callback : WatchpointFn τ}

/-- A turn whose replay call returns. -/
theorem replayPastTransparentExceptions_returned {cursor moved : ReplayCursor σ} {state next : τ}
    {result : TtdReplayResult}
    (replayed : replayTo cursor limit forward callback state =
      (.returned (.ok result), moved, next)) (fuel : Nat) (previous : Option TtdPosition) :
    replayPastTransparentExceptions metadata limit forward callback (fuel + 1) previous cursor
        state =
      if PassesException metadata previous result moved.position then
        replayPastTransparentExceptions metadata limit forward callback fuel
          (some moved.position) moved next
      else some (.returned (.ok result), moved, next) := by
  rw [replayPastTransparentExceptions, replayed]
  by_cases exception : result.stopReason = .exception
  · by_cases stuck : previous = some moved.position
    · simp [PassesException, exception, stuck, positionOf]
    · simp only [PassesException, IsFirstChance, exception, stuck, positionOf, ne_eq,
        not_true_eq_false, not_false_eq_true, if_false, true_and]
      cases metadata.exceptionCodeAt moved.position with
      | none => simp
      | some code => simp
  · simp [PassesException, exception]

/-- A turn whose replay call fails or unwinds is the last one. -/
theorem replayPastTransparentExceptions_failed {cursor moved : ReplayCursor σ} {state next : τ}
    {outcome : Unwind (Except TtdError TtdReplayResult)}
    (replayed : replayTo cursor limit forward callback state = (outcome, moved, next))
    (failed : ∀ result, outcome ≠ .returned (.ok result)) (fuel : Nat)
    (previous : Option TtdPosition) :
    ∃ ended, replayPastTransparentExceptions metadata limit forward callback (fuel + 1) previous
      cursor state = some ended := by
  rw [replayPastTransparentExceptions, replayed]
  cases outcome with
  | panicked payload => exact ⟨_, rfl⟩
  | returned returned =>
      cases returned with
      | error error => exact ⟨_, rfl⟩
      | ok result => exact absurd rfl (failed result)

/-! ## The loop ends -/

/-- The engine never moves a cursor against the direction of travel. -/
def NeverAgainst (σ : Type) [SdkCursor σ] {τ : Type} (limit : TtdPosition) (forward : Bool)
    (callback : WatchpointFn τ) : Prop :=
  ∀ (cursor : ReplayCursor σ) (state : τ),
    ¬Beyond forward (replayTo cursor limit forward callback state).2.1.position cursor.position

/-- The loop ends once it has more turns than there are positions ahead. -/
theorem isSome_of_neverAgainst (engine : NeverAgainst σ limit forward callback) {fuel : Nat}
    {previous : Option TtdPosition} {cursor : ReplayCursor σ}
    (here : previous = some cursor.position)
    (enough : 2 ^ 128 ≤ fuel + travelled forward cursor.position) (state : τ) :
    (replayPastTransparentExceptions metadata limit forward callback fuel previous cursor
      state).isSome := by
  induction fuel generalizing previous cursor state with
  | zero =>
      have bound := travelled_lt forward cursor.position
      omega
  | succ fuel ih =>
      have moves := engine cursor state
      rcases replayed : replayTo cursor limit forward callback state with ⟨outcome, moved, next⟩
      rw [replayed] at moves
      by_cases returned : ∃ result, outcome = .returned (.ok result)
      · obtain ⟨result, rfl⟩ := returned
        rw [replayPastTransparentExceptions_returned replayed]
        split
        case isTrue passes =>
          have ahead : Beyond forward cursor.position moved.position := by
            rcases beyond_trichotomy forward cursor.position moved.position with
              ahead | same | behind
            · exact ahead
            · exact absurd (here.trans (congrArg some same)) passes.2.1
            · exact absurd behind moves
          have further := ahead.travelled_lt
          exact ih rfl (by omega) next
        case isFalse => rfl
      · rw [Option.isSome_iff_exists]
        exact replayPastTransparentExceptions_failed replayed (not_exists.mp returned) fuel previous

theorem isSome_of_neverAgainst_first (engine : NeverAgainst σ limit forward callback)
    {fuel : Nat} (enough : 2 ^ 128 < fuel) (cursor : ReplayCursor σ) (state : τ) :
    (replayPastTransparentExceptions metadata limit forward callback fuel none cursor
      state).isSome := by
  obtain ⟨turns, rfl⟩ : ∃ turns, fuel = turns + 1 :=
    Nat.exists_eq_add_one_of_ne_zero (by omega)
  rcases replayed : replayTo cursor limit forward callback state with ⟨outcome, moved, next⟩
  by_cases returned : ∃ result, outcome = .returned (.ok result)
  · obtain ⟨result, rfl⟩ := returned
    rw [replayPastTransparentExceptions_returned replayed]
    split
    case isTrue => exact isSome_of_neverAgainst engine rfl (by omega) next
    case isFalse => rfl
  · rw [Option.isSome_iff_exists]
    exact replayPastTransparentExceptions_failed replayed (not_exists.mp returned) turns none

/-! ## The loop ends at the first visible stop -/

/-- What the engine can stop at in the direction of travel, one event at a
position, and what it reports at the limit. -/
structure Timeline where
  stops : TtdPosition → Option EventType
  boundary : EventType

/-- The next stop of a timeline beyond a position; the limit ends the way. -/
structure Timeline.IsNext (timeline : Timeline) (forward : Bool)
    (limit start finish : TtdPosition) (event : EventType) : Prop where
  beyond : Beyond forward start finish
  within : ¬Beyond forward limit finish
  reported : timeline.stops finish = some event ∨
    timeline.stops finish = none ∧ finish = limit ∧ event = timeline.boundary
  skipsNone : ∀ between, Beyond forward start between → Beyond forward between finish →
    timeline.stops between = none

/-- The engine reports the stops of a timeline one after the other.  Its
exceptions are in the catalog, each at its own position. -/
structure ReportsInTurn (σ : Type) [SdkCursor σ] {τ : Type} (timeline : Timeline)
    (exceptions : List TtdExceptionEvent) (limit : TtdPosition) (forward : Bool)
    (callback : WatchpointFn τ) : Prop where
  next : ∀ (cursor : ReplayCursor σ) (state : τ), Beyond forward cursor.position limit →
    ∃ result moved after,
      replayTo cursor limit forward callback state = (.returned (.ok result), moved, after) ∧
      timeline.IsNext forward limit cursor.position moved.position result.stopReason
  atLimit : ∀ (cursor : ReplayCursor σ) (state : τ), ¬Beyond forward cursor.position limit →
    ∃ result moved after,
      replayTo cursor limit forward callback state = (.returned (.ok result), moved, after) ∧
      moved.position = cursor.position ∧ result.stopReason = timeline.boundary
  boundary : timeline.boundary ≠ .exception
  catalogued : ∀ position, timeline.stops position = some .exception →
    ∃ event ∈ exceptions, event.position = position

/-- An exception that a live debugger passes through. -/
def TransparentStop (exceptions : List TtdExceptionEvent) (position : TtdPosition)
    (event : EventType) : Prop :=
  event = .exception ∧ ∃ recorded ∈ exceptions, recorded.position = position ∧
    recorded.code ∈ firstChanceExceptionCodes

/-- The first stop beyond `start` that is not transparent: every stop on the way
to it, and any other at its own position, is. -/
structure FirstVisibleStop (timeline : Timeline) (exceptions : List TtdExceptionEvent)
    (forward : Bool) (limit start finish : TtdPosition) (event : EventType) : Prop where
  visible : ¬TransparentStop exceptions finish event
  reported : Beyond forward start finish ∧ timeline.stops finish = some event ∨
    ¬Beyond forward finish limit ∧ event = timeline.boundary
  passed : ∀ position other, timeline.stops position = some other →
    Beyond forward start position → ¬Beyond forward finish position →
    position = finish ∧ other = event ∨ TransparentStop exceptions position other

/-- With one entry for each position, the catalog has the code of an exception
at its own position. -/
theorem isFirstChance_iff {threads : List TtdThreadInfo} {exceptions : List TtdExceptionEvent}
    {firstPosition lastPosition : TtdPosition}
    (single : ∀ event ∈ exceptions, ∀ other ∈ exceptions, other.position = event.position →
      other = event) {event : TtdExceptionEvent} (recorded : event ∈ exceptions) :
    IsFirstChance (.new threads exceptions firstPosition lastPosition) event.position ↔
      TransparentStop exceptions event.position .exception := by
  have found : (TraceMetadata.new threads exceptions firstPosition lastPosition).exceptionCodeAt
      event.position = some event.code := by
    rw [TraceMetadata.exceptionCodeAt,
      TraceMetadata.exceptionAt_of_mem recorded (single event recorded), Option.map_some]
  constructor
  · rintro ⟨code, looked, firstChance⟩
    rw [found] at looked
    cases looked
    exact ⟨rfl, event, recorded, rfl, List.contains_iff_mem.mp firstChance⟩
  · rintro ⟨-, other, otherRecorded, same, firstChance⟩
    rw [single event recorded other otherRecorded same] at firstChance
    exact ⟨event.code, found, List.contains_iff_mem.mpr firstChance⟩

theorem ReportsInTurn.neverAgainst {timeline : Timeline} {exceptions : List TtdExceptionEvent}
    (engine : ReportsInTurn σ timeline exceptions limit forward callback) :
    NeverAgainst σ limit forward callback := by
  intro cursor state against
  by_cases before : Beyond forward cursor.position limit
  · obtain ⟨result, moved, after, replayed, isNext⟩ := engine.next cursor state before
    rw [replayed] at against
    exact (isNext.beyond.trans against).ne rfl
  · obtain ⟨result, moved, after, replayed, stayed, -⟩ := engine.atLimit cursor state before
    rw [replayed, stayed] at against
    exact against.ne rfl

section Turns

variable {threads : List TtdThreadInfo} {exceptions : List TtdExceptionEvent}
  {firstPosition lastPosition : TtdPosition} {timeline : Timeline}

/-- Between turns: all stops so far were transparent, and the last of them was
at the cursor. -/
structure SoFarTransparent (timeline : Timeline) (exceptions : List TtdExceptionEvent)
    (forward : Bool) (start : TtdPosition) (previous : Option TtdPosition)
    (here : TtdPosition) : Prop where
  onTheWay : start = here ∨ Beyond forward start here
  previous : ∀ position, previous = some position → position = here
  passed : ∀ position other, timeline.stops position = some other →
    Beyond forward start position → ¬Beyond forward here position →
    TransparentStop exceptions position other

/-- A stop up to the next one was passed already or is the next one. -/
theorem SoFarTransparent.upToNext {start here finish : TtdPosition}
    {previous : Option TtdPosition} {event : EventType}
    (soFar : SoFarTransparent timeline exceptions forward start previous here)
    (isNext : timeline.IsNext forward limit here finish event) {position : TtdPosition}
    {other : EventType} (stop : timeline.stops position = some other)
    (ahead : Beyond forward start position) (upTo : ¬Beyond forward finish position) :
    position = finish ∧ other = event ∨ TransparentStop exceptions position other := by
  by_cases beyond : Beyond forward here position
  · rcases beyond_trichotomy forward position finish with before | rfl | after
    · rw [isNext.skipsNone position beyond before] at stop
      cases stop
    · rcases isNext.reported with reported | ⟨none, -, -⟩
      · rw [reported] at stop
        exact .inl ⟨rfl, (Option.some.inj stop).symm⟩
      · rw [none] at stop
        cases stop
    · exact absurd after upTo
  · exact .inr (soFar.passed position other stop ahead beyond)

/-- The loop passes the next stop exactly if it is transparent. -/
theorem SoFarTransparent.passes_iff
    (single : ∀ event ∈ exceptions, ∀ other ∈ exceptions, other.position = event.position →
      other = event)
    (engine : ReportsInTurn σ timeline exceptions limit forward callback)
    {start here finish : TtdPosition} {previous : Option TtdPosition} {result : TtdReplayResult}
    (soFar : SoFarTransparent timeline exceptions forward start previous here)
    (isNext : timeline.IsNext forward limit here finish result.stopReason) :
    PassesException (.new threads exceptions firstPosition lastPosition) previous result finish ↔
      TransparentStop exceptions finish result.stopReason := by
  have advanced : previous ≠ some finish := fun stuck =>
    isNext.beyond.ne (soFar.previous finish stuck).symm
  have catalogued (exception : result.stopReason = .exception) :
      ∃ event ∈ exceptions, event.position = finish := by
    rcases isNext.reported with reported | ⟨-, -, atBoundary⟩
    · exact engine.catalogued finish (exception ▸ reported)
    · exact absurd (atBoundary.symm.trans exception) engine.boundary
  constructor
  · rintro ⟨exception, -, firstChance⟩
    obtain ⟨event, recorded, rfl⟩ := catalogued exception
    rw [exception]
    exact (isFirstChance_iff single recorded).mp firstChance
  · intro transparent
    obtain ⟨event, recorded, rfl⟩ := catalogued transparent.1
    exact ⟨transparent.1, advanced,
      (isFirstChance_iff single recorded).mpr (transparent.1 ▸ transparent)⟩

/-- Whatever the loop ends with is the first visible stop. -/
theorem firstVisibleStop_of_ended
    (single : ∀ event ∈ exceptions, ∀ other ∈ exceptions, other.position = event.position →
      other = event)
    (engine : ReportsInTurn σ timeline exceptions limit forward callback) {start : TtdPosition}
    {fuel : Nat} {previous : Option TtdPosition} {cursor : ReplayCursor σ} {state : τ}
    {ended : Unwind (Except TtdError TtdReplayResult) × ReplayCursor σ × τ}
    (soFar : SoFarTransparent timeline exceptions forward start previous cursor.position)
    (ran : replayPastTransparentExceptions (.new threads exceptions firstPosition lastPosition)
      limit forward callback fuel previous cursor state = some ended) :
    ∃ result moved after, ended = (.returned (.ok result), moved, after) ∧
      FirstVisibleStop timeline exceptions forward limit start moved.position
        result.stopReason := by
  induction fuel generalizing previous cursor state with
  | zero => cases ran
  | succ fuel ih =>
      by_cases before : Beyond forward cursor.position limit
      · obtain ⟨result, moved, after, replayed, isNext⟩ := engine.next cursor state before
        rw [replayPastTransparentExceptions_returned replayed] at ran
        have ahead : Beyond forward start moved.position := by
          rcases soFar.onTheWay with same | earlier
          · exact same ▸ isNext.beyond
          · exact earlier.trans isNext.beyond
        split at ran
        case isTrue passes =>
          have transparent := (soFar.passes_iff single engine isNext).mp passes
          refine ih ⟨.inr ahead, fun position same => (Option.some.inj same).symm, ?_⟩ ran
          intro position other stop beyond upTo
          rcases soFar.upToNext isNext stop beyond upTo with ⟨rfl, rfl⟩ | earlier
          · exact transparent
          · exact earlier
        case isFalse visible =>
          refine ⟨result, moved, after, (Option.some.inj ran).symm, ?_, ?_, ?_⟩
          · intro transparent
            exact visible ((soFar.passes_iff single engine isNext).mpr transparent)
          · rcases isNext.reported with reported | ⟨-, atLimit, boundary⟩
            · exact .inl ⟨ahead, reported⟩
            · exact .inr ⟨fun beyond => beyond.ne atLimit, boundary⟩
          · exact fun position other => soFar.upToNext isNext
      · obtain ⟨result, moved, after, replayed, stayed, boundary⟩ :=
          engine.atLimit cursor state before
        have visible : result.stopReason ≠ .exception := boundary ▸ engine.boundary
        rw [replayPastTransparentExceptions_returned replayed,
          if_neg fun passes => visible passes.1] at ran
        refine ⟨result, moved, after, (Option.some.inj ran).symm, fun transparent =>
          visible transparent.1, .inr ⟨stayed ▸ before, boundary⟩, ?_⟩
        intro position other stop ahead upTo
        exact .inr (soFar.passed position other stop ahead (stayed ▸ upTo))

end Turns

/-- An engine that reports its stops in turn is replayed to the first one that
is not transparent, and one that never moves a cursor against the direction of
travel does not keep the loop going, whatever the catalog. -/
theorem replayPastTransparentExceptions_correct (limit : TtdPosition) (forward : Bool)
    (callback : WatchpointFn τ) (cursor : ReplayCursor σ) (state : τ) {fuel : Nat}
    (enough : 2 ^ 128 < fuel) :
    (∀ (threads : List TtdThreadInfo) (exceptions : List TtdExceptionEvent)
        (firstPosition lastPosition : TtdPosition) (timeline : Timeline),
      (∀ event ∈ exceptions, ∀ other ∈ exceptions, other.position = event.position →
        other = event) →
      ReportsInTurn σ timeline exceptions limit forward callback →
      ∃ result moved after,
        replayPastTransparentExceptions (.new threads exceptions firstPosition lastPosition) limit
            forward callback fuel none cursor state =
          some (.returned (.ok result), moved, after) ∧
        FirstVisibleStop timeline exceptions forward limit cursor.position moved.position
          result.stopReason) ∧
    ∀ metadata, NeverAgainst σ limit forward callback →
      (replayPastTransparentExceptions metadata limit forward callback fuel none cursor
        state).isSome := by
  constructor
  · intro threads exceptions firstPosition lastPosition timeline single engine
    have returns : (replayPastTransparentExceptions
        (.new threads exceptions firstPosition lastPosition) limit forward callback fuel none
        cursor state).isSome :=
      isSome_of_neverAgainst_first engine.neverAgainst enough cursor state
    obtain ⟨ended, ran⟩ := Option.isSome_iff_exists.mp returns
    have start : SoFarTransparent timeline exceptions forward cursor.position none
        cursor.position :=
      ⟨.inl rfl, by simp, fun position _ _ ahead upTo => absurd ahead upTo⟩
    obtain ⟨result, moved, after, rfl, first⟩ := firstVisibleStop_of_ended single engine start ran
    exact ⟨result, moved, after, ran, first⟩
  · exact fun metadata engine => isSome_of_neverAgainst_first engine enough cursor state

end Loop

/-! ## A thrown exception and a crash -/

/-- A cursor of a trace that throws at 2:0 and crashes at 3:0, at one of its
stops. -/
inductive ThrowingCursor where
  | first
  | thrown
  | crashed
  | last

namespace ThrowingCursor

/-- Where each of the four stands. -/
def position : ThrowingCursor → TtdPosition
  | first => ⟨1, 0⟩
  | thrown => ⟨2, 0⟩
  | crashed => ⟨3, 0⟩
  | last => ⟨9, 0⟩

/-- The next stop and its raw event. -/
def nextStop : ThrowingCursor → ThrowingCursor × UInt8
  | first => (thrown, 2)
  | thrown => (crashed, 2)
  | crashed => (last, 6)
  | last => (last, 6)

instance : SdkCursor ThrowingCursor where
  architecture := 9
  getPosition := position
  setPosition _ _ := first
  replay cursor _ :=
    .done (cursor.nextStop.1, { (default : ReplayOutcome) with stopReason := cursor.nextStop.2 })
  setEventMask cursor _ := cursor
  setExceptionMask cursor _ := cursor
  addMemoryWatchpoint cursor _ _ _ _ := (true, cursor)
  removeMemoryWatchpoint cursor _ _ _ _ := (true, cursor)
  view cursor := ScriptedCursor.view ⟨cursor.position, []⟩

/-- A throw, a crash and the end of the trace. -/
def timeline : Timeline where
  stops position := if position = ⟨2, 0⟩ ∨ position = ⟨3, 0⟩ then some .exception else none
  boundary := .position

/-- The catalogue of the trace: a C++ throw and an access violation. -/
def exceptions : List TtdExceptionEvent :=
  [⟨⟨2, 0⟩, 0xE06D7363, 0x1000, 0x1000⟩, ⟨⟨3, 0⟩, 0xC0000005, 0x2000, 0x2000⟩]

theorem reportsInTurn {τ : Type} (callback : WatchpointFn τ) :
    ReportsInTurn ThrowingCursor timeline exceptions ⟨9, 0⟩ true callback where
  next cursor state before := by
    obtain ⟨cursor⟩ := cursor
    cases cursor with
    | first =>
        refine ⟨_, _, _, rfl, by decide +kernel, by decide +kernel, .inl rfl, ?_⟩
        intro between _ before
        have early : between < ⟨2, 0⟩ := before
        have earlier := lt_trans early (show (⟨2, 0⟩ : TtdPosition) < ⟨3, 0⟩ by decide +kernel)
        simp [timeline, ne_of_lt early, ne_of_lt earlier]
    | thrown =>
        refine ⟨_, _, _, rfl, by decide +kernel, by decide +kernel, .inl rfl, ?_⟩
        intro between after before
        have late : (⟨2, 0⟩ : TtdPosition) < between := after
        have early : between < ⟨3, 0⟩ := before
        simp [timeline, ne_of_gt late, ne_of_lt early]
    | crashed =>
        refine ⟨_, _, _, rfl, by decide +kernel, by decide +kernel,
          .inr ⟨by decide, rfl, rfl⟩, ?_⟩
        intro between after _
        have late : (⟨3, 0⟩ : TtdPosition) < between := after
        have later := lt_trans (show (⟨2, 0⟩ : TtdPosition) < ⟨3, 0⟩ by decide +kernel) late
        simp [timeline, ne_of_gt late, ne_of_gt later]
    | last => exact absurd before (lt_irrefl _)
  atLimit cursor state past := by
    obtain ⟨cursor⟩ := cursor
    cases cursor with
    | last => exact ⟨_, _, _, rfl, rfl, rfl⟩
    | first | thrown | crashed => exact absurd (by decide +kernel) past
  boundary := by decide
  catalogued position stop := by
    by_cases recorded : position = ⟨2, 0⟩ ∨ position = ⟨3, 0⟩
    · rcases recorded with rfl | rfl
      · exact ⟨_, List.mem_cons_self .., rfl⟩
      · exact ⟨_, List.mem_cons_of_mem _ (List.mem_cons_self ..), rfl⟩
    · simp [timeline, recorded] at stop

/-- From the first position the throw is passed, and the loop ends. -/
theorem throw_is_passed :
    (∃ result moved after,
        replayPastTransparentExceptions (.new [] exceptions ⟨1, 0⟩ ⟨9, 0⟩) ⟨9, 0⟩ true
            (fun count _ _ _ _ => (false, count + 1)) (2 ^ 128 + 1) none
            (⟨first⟩ : ReplayCursor ThrowingCursor) 0 =
          some (.returned (.ok result), moved, after) ∧
        FirstVisibleStop timeline exceptions true ⟨9, 0⟩ ⟨1, 0⟩ moved.position
          result.stopReason) ∧
      (replayPastTransparentExceptions (.new [] [] ⟨1, 0⟩ ⟨9, 0⟩) ⟨9, 0⟩ true
        (fun count _ _ _ _ => (false, count + 1)) (2 ^ 128 + 1) none
        (⟨first⟩ : ReplayCursor ThrowingCursor) 0).isSome := by
  have correct := replayPastTransparentExceptions_correct ⟨9, 0⟩ true
    (fun (count : Nat) _ _ _ _ => (false, count + 1)) (⟨first⟩ : ReplayCursor ThrowingCursor) 0
    (Nat.lt_succ_self (2 ^ 128))
  exact ⟨correct.1 [] exceptions ⟨1, 0⟩ ⟨9, 0⟩ timeline (by decide) (reportsInTurn _),
    correct.2 _ (reportsInTurn _).neverAgainst⟩

end ThrowingCursor

end TtdGdbserver.Target
