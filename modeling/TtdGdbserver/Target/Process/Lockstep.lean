import TtdGdbserver.Target.Process.Coherence

/-!
# Processes in lockstep

Two processes that agree on everything but the persistent cursor, the
breakpoints and the counters step alike.  A range step is a loop over steps,
so loops whose steps and reads of the PC agree end alike.
-/

namespace TtdGdbserver.Target

open TtdGdbserver.Ttd

/-! ## Loops in lockstep -/

section RangeLoop

variable {S T : Type} {interrupted : Nat → Bool} {inRange : UInt64 → Bool}
  {step : S → Unwind (Except DebugError StopReason) × S} {readPc : S → Option UInt64 × S}
  {position : S → TtdPosition}
  {step' : T → Unwind (Except DebugError StopReason) × T} {readPc' : T → Option UInt64 × T}
  {position' : T → TtdPosition}

/-- Two results are alike: they say the same and leave related states. -/
def SameResult {ρ : Type} (related : S → T → Prop) (first : ρ × S) (second : ρ × T) : Prop :=
  first.1 = second.1 ∧ related first.2 second.2

/-- Wrapping what both say keeps results alike. -/
theorem SameResult.map_rel {ρ ρ' : Type} {related : S → T → Prop} (wrap : ρ → ρ')
    {first : Option (ρ × S)} {second : Option (ρ × T)}
    (same : Option.Rel (SameResult related) first second) :
    Option.Rel (SameResult related) (first.map (Prod.map wrap id))
      (second.map (Prod.map wrap id)) := by
  cases same with
  | none => exact .none
  | some ended => exact .some ⟨congrArg wrap ended.1, ended.2⟩

/-- What goes on alike from alike results ends alike. -/
theorem SameResult.bind_rel {ρ α β : Type} {related : S → T → Prop}
    {goal : α → β → Prop} {first : Option (ρ × S)} {second : Option (ρ × T)}
    (same : Option.Rel (SameResult related) first second)
    {next : ρ × S → Option α} {next' : ρ × T → Option β}
    (rest : ∀ result result', SameResult related result result' →
      Option.Rel goal (next result) (next' result')) :
    Option.Rel goal (first.bind next) (second.bind next') := by
  cases same with
  | none => exact .none
  | some ended => exact rest _ _ ended

/-- Alike results are related as closely as the runs that gave them allow. -/
theorem SameResult.strengthen_rel {ρ : Type} {related closer : S → T → Prop}
    {first : Option (ρ × S)} {second : Option (ρ × T)}
    (same : Option.Rel (SameResult related) first second)
    (close : ∀ result state state', first = some (result, state) →
      second = some (result, state') → related state state' → closer state state') :
    Option.Rel (SameResult closer) first second := by
  cases same with
  | none => exact .none
  | @some left right ended =>
      obtain ⟨result, state⟩ := left
      obtain ⟨result', state'⟩ := right
      obtain ⟨sameResult, relates⟩ := ended
      obtain rfl : result = result' := sameResult
      exact .some ⟨rfl, close result state state' rfl rfl relates⟩

/-- Two runs that end like a third are compared through it. -/
theorem SameResult.join_rel {ρ : Type} {related : S → T → Prop} {goal : ρ × S → ρ × S → Prop}
    {first second : Option (ρ × S)} {third : Option (ρ × T)}
    (left : Option.Rel (SameResult related) first third)
    (right : Option.Rel (SameResult related) second third)
    (join : ∀ ended ended' common, SameResult related ended common →
      SameResult related ended' common → goal ended ended') :
    Option.Rel goal first second := by
  cases left with
  | none =>
      cases right with
      | none => exact .none
  | some ended =>
      cases right with
      | some ended' => exact .some (join _ _ _ ended ended')

/-- Two loops end alike if their steps do, and the reads after completed steps
do.  `landed` is what a completed step ensures. -/
theorem rangeLoop_lockstep {related landed : S → T → Prop}
    (steps : ∀ first second, related first second → SameResult related (step first) (step' second))
    (completed : ∀ first second, related first second →
      (step first).1 = .returned (.ok .stepComplete) → landed (step first).2 (step' second).2)
    (reads : ∀ first second, landed first second →
      SameResult related (readPc first) (readPc' second))
    (positions : ∀ first second, related first second → position first = position' second)
    (fuel iteration : Nat) (previous : TtdPosition) {first : S} {second : T}
    (start : related first second) :
    Option.Rel (SameResult related)
      (rangeLoop interrupted step readPc position inRange fuel iteration previous first)
      (rangeLoop interrupted step' readPc' position' inRange fuel iteration previous second) := by
  induction fuel generalizing iteration previous first second with
  | zero => exact .none
  | succ fuel ih =>
      by_cases poll : interrupted iteration = true
      · rw [rangeLoop_interrupted poll, rangeLoop_interrupted poll]
        exact .some ⟨rfl, start⟩
      · obtain ⟨sameOutcome, stepped⟩ := steps first second start
        have lands := completed first second start
        rcases stepEq : step first with ⟨outcome, next⟩
        rcases stepEq' : step' second with ⟨outcome', next'⟩
        rw [stepEq, stepEq'] at sameOutcome stepped lands
        obtain rfl : outcome = outcome' := sameOutcome
        by_cases done : outcome = .returned (.ok .stepComplete)
        · subst outcome
          obtain ⟨samePc, after⟩ := reads next next' (lands rfl)
          rw [rangeLoop_completed poll stepEq, rangeLoop_completed poll stepEq']
          rcases readEq : readPc next with ⟨pc, read⟩
          rcases readEq' : readPc' next' with ⟨pc', read'⟩
          rw [readEq, readEq'] at samePc after
          obtain rfl : pc = pc' := samePc
          cases pc with
          | none => exact .some ⟨rfl, after⟩
          | some pc =>
              have samePosition : position read = position' read' := positions _ _ after
              dsimp only
              rw [samePosition]
              split
              · exact ih _ _ after
              · exact .some ⟨rfl, after⟩
        · rw [rangeLoop_otherwise poll stepEq done, rangeLoop_otherwise poll stepEq' done]
          exact .some ⟨rfl, stepped⟩

/-- Every turn but the last advances the position, and there are finitely many
positions: a range step returns. -/
theorem rangeLoop_returns {fuel iteration : Nat} {previous : TtdPosition}
    (enough : 2 ^ 128 ≤ fuel + previous.rank) (state : S) :
    (rangeLoop interrupted step readPc position inRange fuel iteration previous state).isSome := by
  induction fuel generalizing iteration previous state with
  | zero =>
      have bound := previous.rank_lt
      omega
  | succ fuel ih =>
      have turn : RangeTurn interrupted step readPc position inRange iteration previous state :=
        rangeLoop_turn iteration previous state
      cases turn with
      | interrupted _ ends => rw [ends]; rfl
      | otherwise _ _ _ ends => rw [ends]; rfl
      | left _ _ _ _ ends => rw [ends]; rfl
      | goesOn _ _ _ advanced again =>
          rw [again]
          have higher := TtdPosition.lt_iff_rank.mp advanced
          exact ih (by omega) _

end RangeLoop

/-! ## Alike processes -/

namespace TtdProcess

variable {σ : Type} [SdkCursor σ]

/-- The processes agree on the step cursor, the debug position, the current
thread and the tables of the trace. -/
structure StepsAlike (first second : TtdProcess σ) : Prop where
  step : first.cursors.step = second.cursors.step
  position : first.position = second.position
  lifetime : first.lifetime = second.lifetime
  endsWithProcessExit : first.endsWithProcessExit = second.endsWithProcessExit
  currentThreadId : first.currentThreadId = second.currentThreadId
  metadata : first.metadata = second.metadata

omit [SdkCursor σ] in
theorem StepsAlike.refl (process : TtdProcess σ) : StepsAlike process process :=
  ⟨rfl, rfl, rfl, rfl, rfl, rfl⟩

omit [SdkCursor σ] in
theorem StepsAlike.symm {first second : TtdProcess σ} (alike : StepsAlike first second) :
    StepsAlike second first :=
  ⟨alike.step.symm, alike.position.symm, alike.lifetime.symm, alike.endsWithProcessExit.symm,
    alike.currentThreadId.symm, alike.metadata.symm⟩

omit [SdkCursor σ] in
theorem StepsAlike.trans {first second third : TtdProcess σ} (left : StepsAlike first second)
    (right : StepsAlike second third) : StepsAlike first third :=
  ⟨left.step.trans right.step, left.position.trans right.position,
    left.lifetime.trans right.lifetime,
    left.endsWithProcessExit.trans right.endsWithProcessExit,
    left.currentThreadId.trans right.currentThreadId, left.metadata.trans right.metadata⟩

/-- Positioning the persistent cursor is out of a step's sight. -/
theorem stepsAlike_atPosition (process : TtdProcess σ) (position : TtdPosition) :
    StepsAlike (process.atPosition position) process := by
  have same := sameDebugState_atPosition process position
  refine ⟨?_, same.position, same.lifetime, same.endsWithProcessExit, same.currentThreadId,
    same.metadata⟩
  simp only [atPosition, cursors_bumpSeek]
  rfl

/-- So is a query through the persistent cursor. -/
theorem stepsAlike_withCursor {α : Type} (process : TtdProcess σ) (ask : ReplayCursor σ → α) :
    StepsAlike (process.withCursor ask).2 process :=
  (stepsAlike_atPosition _ _).trans ⟨rfl, rfl, rfl, rfl, rfl, rfl⟩

omit [SdkCursor σ] in
/-- What a replay result means depends on the position and the tables alone. -/
theorem StepsAlike.resolveStep {first second : TtdProcess σ} (alike : StepsAlike first second)
    (result : TtdReplayResult) (backward : Bool) :
    first.resolveStep result backward = second.resolveStep result backward := by
  have enriched : first.enrichException = second.enrichException := by
    funext reason
    simp only [enrichException, alike.position, alike.metadata]
  simp only [TtdProcess.resolveStep, alike.position, alike.lifetime, alike.endsWithProcessExit,
    enriched]

/-- Alike processes step alike. -/
theorem StepsAlike.stepOnStepCursor {first second : TtdProcess σ}
    (alike : StepsAlike first second) (backward : Bool) :
    SameResult StepsAlike (first.stepOnStepCursor backward)
      (second.stepOnStepCursor backward) := by
  unfold TtdProcess.stepOnStepCursor
  rw [alike.step, alike.position]
  rcases second.cursors.step.prepare second.position with ⟨seeked, step⟩
  rcases replayed : stepReplay step.cursor backward with ⟨outcome, cursor⟩
  simp only [replayed]
  cases outcome with
  | panicked payload =>
      exact ⟨rfl, rfl, alike.position, alike.lifetime, alike.endsWithProcessExit,
        alike.currentThreadId, alike.metadata⟩
  | returned returned =>
      cases returned with
      | error error =>
          exact ⟨rfl, rfl, alike.position, alike.lifetime, alike.endsWithProcessExit,
            alike.currentThreadId, alike.metadata⟩
      | ok result =>
          refine ⟨congrArg Unwind.returned (StepsAlike.resolveStep ?landed result backward),
            ?landed⟩
          cases seeked <;> refine ⟨rfl, rfl, alike.lifetime, alike.endsWithProcessExit, ?_,
            alike.metadata⟩
          all_goals
            dsimp only
            split
            · rfl
            · exact alike.currentThreadId

/-- Alike processes take range steps alike. -/
theorem StepsAlike.stepRange {first second : TtdProcess σ} (alike : StepsAlike first second)
    (threadId : Option UInt64) (start finish : UInt64) (epoch : Nat → UInt64) (fuel : Nat) :
    Option.Rel (SameResult StepsAlike) (first.stepRange threadId start finish epoch fuel)
      (second.stepRange threadId start finish epoch fuel) := by
  have sameTid : first.stepRangeTid threadId = second.stepRangeTid threadId := by
    rw [stepRangeTid, stepRangeTid, alike.currentThreadId, alike.metadata]
  unfold TtdProcess.stepRange
  split
  · exact .some (alike.stepOnStepCursor false)
  · rw [alike.position, sameTid]
    refine rangeLoop_lockstep (fun first second alike => alike.stepOnStepCursor false)
      (fun first second alike _ => (alike.stepOnStepCursor false).2) ?_
      (fun first second alike => alike.position) fuel 0 second.position alike
    intro first second alike
    refine ⟨?_, alike⟩
    rw [stepCursorPc, stepCursorPc, alike.step]

end TtdProcess

/-- A trace with one thread whose engine steps twice and then fails. -/
def steppedTrace : TtdProcess ScriptedCursor :=
  let stepped (position : TtdPosition) : Reaction :=
    ⟨[], position, { (default : ReplayOutcome) with stopReason := 5 }⟩
  .openTrace (.new [⟨1, 1⟩] [] ⟨1, 0⟩ ⟨9, 0⟩) ⟨⟨0, 0⟩, []⟩
    ⟨⟨0, 0⟩, [stepped ⟨2, 1⟩, stepped ⟨2, 2⟩]⟩ none

end TtdGdbserver.Target
