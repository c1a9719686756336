import TtdGdbserver.Target.Process.Lockstep

/-!
# Range steps end and can be interrupted

The loop of a range step polls a counter that the interrupt handle counts up
from another thread.  Nothing is assumed of the engine, and the handle may fire
at any point of the loop, any number of times.
-/

namespace TtdGdbserver.Target

open TtdGdbserver.Ttd

/-! ## The loop -/

section RangeLoop

variable {S : Type} {interrupted : Nat → Bool}
  {step : S → Unwind (Except DebugError StopReason) × S} {readPc : S → Option UInt64 × S}
  {position : S → TtdPosition} {inRange : UInt64 → Bool}

/-- A loop that reports a completed step has left the range with its last step,
or that step did not advance. -/
theorem rangeLoop_stepComplete {fuel iteration : Nat} {previous : TtdPosition}
    {state finish : S}
    (finished : rangeLoop interrupted step readPc position inRange fuel iteration previous state =
      some (.returned (.ok .stepComplete), finish))
    (here : previous = position state) :
    ∃ before next pc, step before = (.returned (.ok .stepComplete), next) ∧
      readPc next = (pc, finish) ∧
        ((∀ value, pc = some value → inRange value = false) ∨
          ¬ position before < position finish) := by
  induction fuel generalizing iteration previous state with
  | zero => contradiction
  | succ fuel ih =>
      subst here
      have turn : RangeTurn interrupted step readPc position inRange iteration (position state)
          state := rangeLoop_turn iteration _ state
      cases turn with
      | interrupted _ ends => cases (ends fuel).symm.trans finished
      | otherwise _ _ other ends =>
          cases (ends fuel).symm.trans finished
          exact absurd rfl other
      | left _ stepEq readEq leaves ends =>
          cases (ends fuel).symm.trans finished
          exact ⟨state, _, _, stepEq, readEq, leaves⟩
      | goesOn _ _ _ _ again => exact ih ((again fuel).symm.trans finished) rfl

/-- A check that finds nothing comes before the one that finds an interrupt. -/
theorem exists_later_check {iteration turns : Nat} (quiet : interrupted iteration = false)
    (poll : interrupted (iteration + turns) = true) :
    ∃ more, turns = more + 1 ∧ interrupted (iteration + 1 + more) = true := by
  cases turns with
  | zero =>
      rw [Nat.add_zero, quiet] at poll
      contradiction
  | succ more => exact ⟨more, rfl, by rwa [Nat.add_right_comm]⟩

section Counted

variable (count : S → Nat)
  (steps : ∀ {state outcome next}, step state = (outcome, next) → count next = count state + 1)
  (reads : ∀ {state pc after}, readPc state = (pc, after) → count after = count state)

include steps reads

/-- A check that finds an interrupt is not followed by a step. -/
theorem rangeLoop_count_le
    {fuel iteration : Nat} {previous : TtdPosition} {state finish : S}
    {outcome : Unwind (Except DebugError StopReason)}
    (finished : rangeLoop interrupted step readPc position inRange fuel iteration previous state =
      some (outcome, finish))
    {turns : Nat} (poll : interrupted (iteration + turns) = true) :
    count finish ≤ count state + turns := by
  induction fuel generalizing iteration previous state turns with
  | zero => contradiction
  | succ fuel ih =>
      have turn : RangeTurn interrupted step readPc position inRange iteration previous state :=
        rangeLoop_turn iteration previous state
      cases turn with
      | interrupted _ ends =>
          cases (ends fuel).symm.trans finished
          exact Nat.le_add_right ..
      | otherwise quiet stepEq _ ends =>
          cases (ends fuel).symm.trans finished
          obtain ⟨more, rfl, _⟩ := exists_later_check quiet poll
          have counted := steps stepEq
          omega
      | left quiet stepEq readEq _ ends =>
          cases (ends fuel).symm.trans finished
          obtain ⟨more, rfl, _⟩ := exists_later_check quiet poll
          have counted := steps stepEq
          have kept := reads readEq
          omega
      | goesOn quiet stepEq readEq _ again =>
          obtain ⟨more, rfl, later⟩ := exists_later_check quiet poll
          have counted := steps stepEq
          have kept := reads readEq
          have bound := ih ((again fuel).symm.trans finished) later
          omega

/-- A loop that gets as far as that check ends there. -/
theorem rangeLoop_interrupted_at
    {fuel iteration : Nat} {previous : TtdPosition} {state finish : S}
    {outcome : Unwind (Except DebugError StopReason)}
    (finished : rangeLoop interrupted step readPc position inRange fuel iteration previous state =
      some (outcome, finish))
    {turns : Nat} (poll : interrupted (iteration + turns) = true)
    (going : rangeLoop interrupted step readPc position inRange turns iteration previous state =
      none) :
    outcome = .returned (.ok .interrupted) ∧ count finish = count state + turns := by
  induction fuel generalizing iteration previous state turns with
  | zero => contradiction
  | succ fuel ih =>
      have turn : RangeTurn interrupted step readPc position inRange iteration previous state :=
        rangeLoop_turn iteration previous state
      cases turn with
      | interrupted _ ends =>
          cases (ends fuel).symm.trans finished
          cases turns with
          | zero => exact ⟨rfl, rfl⟩
          | succ more => cases (ends more).symm.trans going
      | otherwise quiet _ _ ends =>
          obtain ⟨more, rfl, _⟩ := exists_later_check quiet poll
          cases (ends more).symm.trans going
      | left quiet _ _ _ ends =>
          obtain ⟨more, rfl, _⟩ := exists_later_check quiet poll
          cases (ends more).symm.trans going
      | goesOn quiet stepEq readEq _ again =>
          obtain ⟨more, rfl, later⟩ := exists_later_check quiet poll
          have counted := steps stepEq
          have kept := reads readEq
          obtain ⟨said, total⟩ := ih ((again fuel).symm.trans finished) later
            ((again more).symm.trans going)
          exact ⟨said, by omega⟩

end Counted

end RangeLoop

/-! ## The interrupt epoch -/

/-- The counter after `begin_resume`. -/
def beginResume (_epoch : UInt64) : UInt64 := 0

/-- One firing of the interrupt handle. -/
def fire (epoch : UInt64) : UInt64 := epoch + 1

/-- What check `check` of a range step loads: `begin_resume` finds the counter
`stale`, and the handle fires `fired check` times between it and the check. -/
def loads (stale : UInt64) (fired : Nat → Nat) (check : Nat) : UInt64 :=
  fire^[fired check] (beginResume stale)

theorem loads_eq (stale : UInt64) (fired : Nat → Nat) (check : Nat) :
    loads stale fired check = UInt64.ofNat (fired check) := by
  unfold loads
  induction fired check with
  | zero => rfl
  | succ count ih =>
      rw [Function.iterate_succ_apply', ih, fire]
      apply UInt64.toNat_inj.mp
      simp [UInt64.toNat_add]

/-- A check finds an interrupt unless the counter is back at 0. -/
theorem loads_bne_zero (stale : UInt64) {fired : Nat → Nat} {check : Nat}
    (counted : ¬ 2 ^ 64 ∣ fired check) : (loads stale fired check != 0) = true := by
  rw [loads_eq, bne_iff_ne]
  intro zero
  have value := congrArg UInt64.toNat zero
  rw [UInt64.toNat_ofNat', UInt64.toNat_zero] at value
  exact counted (Nat.dvd_of_mod_eq_zero value)

namespace TtdProcess

variable {σ : Type} [SdkCursor σ]

/-- How a range step ends: after a completed step outside the range or without
progress, and no later than at a check that finds an interrupt.  A range step
that is not over after `check` turns is at that check. -/
structure EndsInTime (process : TtdProcess σ) (threadId : Option UInt64) (start finish : UInt64)
    (epoch : Nat → UInt64) (fired : Nat → Nat) (outcome : Unwind (Except DebugError StopReason))
    (after : TtdProcess σ) (steps : List SingleStep) : Prop where
  completed : outcome = .returned (.ok .stepComplete) → ∃ last, steps.getLast? = some last ∧
    (¬ (start ≤ after.stepCursorPc (process.stepRangeTid threadId) ∧
        after.stepCursorPc (process.stepRangeTid threadId) < finish) ∨
      ¬ last.debugPosition < after.position)
  noLater : ∀ check, ¬ 2 ^ 64 ∣ fired check → steps.length ≤ check
  atCheck : ∀ check, ¬ 2 ^ 64 ∣ fired check →
    process.recordedRange threadId start finish epoch check = none →
      outcome = .returned (.ok .interrupted) ∧ steps.length = check

theorem recordedStep_eq {recorded next : TtdProcess σ × List SingleStep}
    {outcome : Unwind (Except DebugError StopReason)}
    (stepEq : recordedStep recorded = (outcome, next)) :
    next.2 = recorded.2 ++ [recorded.1.singleStep false] := by
  cases stepEq
  rfl

theorem endsInTime_of_recordedRange {process after : TtdProcess σ} {threadId : Option UInt64}
    {start finish stale : UInt64} {fired : Nat → Nat} {fuel : Nat}
    {outcome : Unwind (Except DebugError StopReason)} {steps : List SingleStep}
    (finished : process.recordedRange threadId start finish (loads stale fired) fuel =
      some (outcome, after, steps)) :
    EndsInTime process threadId start finish (loads stale fired) fired outcome after steps := by
  let count (recorded : TtdProcess σ × List SingleStep) : Nat := recorded.2.length
  have counts {recorded next : TtdProcess σ × List SingleStep}
      {outcome : Unwind (Except DebugError StopReason)}
      (stepEq : recordedStep recorded = (outcome, next)) : count next = count recorded + 1 := by
    simp only [count, recordedStep_eq stepEq, List.length_append, List.length_singleton]
  have keeps {recorded after : TtdProcess σ × List SingleStep} {pc : Option UInt64}
      (readEq : (some (recorded.1.stepCursorPc (process.stepRangeTid threadId)), recorded) =
        (pc, after)) : count after = count recorded := by
    cases readEq
    rfl
  have polls (check : Nat) (counted : ¬ 2 ^ 64 ∣ fired check) :
      (loads stale fired (0 + check) != 0) = true := by
    rw [Nat.zero_add]
    exact loads_bne_zero stale counted
  refine ⟨?_, ?_, ?_⟩
  · rintro rfl
    obtain ⟨before, next, pc, stepEq, readEq, leaves⟩ := rangeLoop_stepComplete finished rfl
    cases readEq
    have recorded : steps = before.2 ++ [before.1.singleStep false] := recordedStep_eq stepEq
    refine ⟨before.1.singleStep false, by rw [recorded, List.getLast?_concat], ?_⟩
    refine leaves.imp_left fun outside => ?_
    simpa [pcInRange] using outside _ rfl
  · intro check counted
    have bound := rangeLoop_count_le count counts keeps finished (polls check counted)
    simpa only [count, List.length_nil, Nat.zero_add] using bound
  · intro check counted going
    have ended := rangeLoop_interrupted_at count counts keeps finished (polls check counted) going
    simpa only [count, List.length_nil, Nat.zero_add] using ended

end TtdProcess

/-- For any engine, a range step ends, with the thread's PC outside the range
or without progress if its steps complete, and no later than at a check that
finds the counter counted up; firings before `begin_resume` change nothing. -/
theorem stepRange_endsInTime {σ : Type} [SdkCursor σ] (process : TtdProcess σ)
    (threadId : Option UInt64) (start finish stale : UInt64) (fired : Nat → Nat) (extra : Nat) :
    ∃ outcome after,
      process.stepRange threadId start finish (loads stale fired) (2 ^ 128 + extra) =
        some (outcome, after) ∧
      (start < finish → ∃ steps,
        process.recordedRange threadId start finish (loads stale fired) (2 ^ 128 + extra) =
          some (outcome, after, steps) ∧
        process.EndsInTime threadId start finish (loads stale fired) fired outcome after steps) ∧
      ∀ earlier, process.stepRange threadId start finish (loads (fire^[earlier] stale) fired)
        (2 ^ 128 + extra) = some (outcome, after) := by
  by_cases empty : start ≥ finish
  · refine ⟨_, _, if_pos empty, ?_, fun earlier => if_pos empty⟩
    intro nonempty
    exact absurd nonempty (UInt64.not_lt.mpr empty)
  · have returns : (process.recordedRange threadId start finish (loads stale fired)
        (2 ^ 128 + extra)).isSome := rangeLoop_returns (by omega) _
    obtain ⟨⟨outcome, after, steps⟩, finished⟩ := Option.isSome_iff_exists.mp returns
    have ended : process.stepRange threadId start finish (loads stale fired) (2 ^ 128 + extra) =
        some (outcome, after) := by
      rw [process.stepRange_eq_recordedRange threadId empty, finished]
      rfl
    refine ⟨outcome, after, ended, fun _ => ⟨steps, finished, ?_⟩, fun earlier => ?_⟩
    · exact TtdProcess.endsInTime_of_recordedRange finished
    · have same : loads (fire^[earlier] stale) fired = loads stale fired := rfl
      rw [same, ended]

/-- A handle that fires 2 ^ 64 times before the first check. -/
def wrappedFirings (_check : Nat) : Nat := 2 ^ 64

/-- The counter is back at 0 then, and the check lets the step go on. -/
theorem wrappedFirings_goesOn :
    ∃ outcome after steps,
      steppedTrace.recordedRange none 0 0x100 (loads 0 wrappedFirings) 10 =
        some (outcome, after, steps) ∧
      0 < wrappedFirings 0 ∧ 0 < steps.length ∧ outcome ≠ .returned (.ok .interrupted) := by
  have unseen : loads 0 wrappedFirings = fun _ => 0 := by
    funext check
    rw [loads_eq, wrappedFirings]
    rfl
  have ran : (steppedTrace.recordedRange none 0 0x100 (fun _ => 0) 10).map
      (fun result => (decide (result.1 = .returned (.ok .interrupted)), result.2.2.length)) =
        some (false, 3) := by decide +kernel
  obtain ⟨⟨outcome, after, steps⟩, finished, said⟩ := Option.map_eq_some_iff.mp ran
  obtain ⟨other, length⟩ := Prod.mk.inj said
  exact ⟨outcome, after, steps, unseen ▸ finished, by decide, length ▸ by decide,
    of_decide_eq_false other⟩

end TtdGdbserver.Target
