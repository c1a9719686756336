import TtdGdbserver.Target.Process.Frame
import TtdGdbserver.Target.Process.Lockstep

/-!
# The fast range step and the portable one

The fast range step reads the PC on the step cursor, the portable one through
`threadState` on the persistent cursor.  After a completed step both cursors
are at the debug position, so both loops see the same PC.
-/

namespace TtdGdbserver.Target

open TtdGdbserver.Ttd TtdGdbserver.Transition

namespace TtdProcess

variable {σ : Type} [SdkCursor σ]

/-- A step that returns a stop reason leaves the step cursor at the debug
position. -/
theorem position_of_stepped (process : TtdProcess σ) (backward : Bool) (reason : StopReason) :
    (process.stepOnStepCursor backward).1 = .returned (.ok reason) →
      (process.stepOnStepCursor backward).2.cursors.step.cursor.position =
        (process.stepOnStepCursor backward).2.position := by
  unfold stepOnStepCursor
  rcases process.cursors.step.prepare process.position with ⟨seeked, step⟩
  rcases replayed : stepReplay step.cursor backward with ⟨outcome, cursor⟩
  simp only [replayed]
  cases outcome with
  | panicked payload =>
      intro stepped
      cases stepped
  | returned returned =>
      cases returned with
      | error error =>
          intro stepped
          cases stepped
      | ok result =>
          intro _
          cases seeked <;> rfl

variable [LawfulSdkCursor σ]

/-- With the step cursor at the debug position, `threadState` of a known thread
reports the PC that the step cursor reads. -/
theorem Coherent.rip_threadState {process : TtdProcess σ} (coherent : process.Coherent)
    (landed : process.cursors.step.cursor.position = process.position) {threadId : UInt64}
    {tid : UInt32} (narrow : u32TryFrom threadId = some tid)
    (known : process.metadata.threads.containsOsTid tid) :
    ((process.threadState (some threadId)).1.map fun (regs, _) => regs.rip) =
        some (process.stepCursorPc tid) ∧
      (process.threadState (some threadId)).2.Coherent ∧
      StepsAlike (process.threadState (some threadId)).2 process := by
  have asked : process.threadState (some threadId) =
      process.withCursor fun cursor => some (threadStateOf cursor tid) := by
    simp only [threadState, osTid, narrow, known, if_true]
  obtain ⟨right, cursor, there, answer⟩ :=
    coherent.withCursor fun cursor => some (threadStateOf cursor tid)
  have views : cursor.view = process.cursors.step.cursor.view := by
    apply ReplayCursor.view_congr
    rw [there, ← landed, ReplayCursor.round_position]
  have contexts : cursor.amd64Context tid = process.cursors.step.cursor.amd64Context tid := by
    simp only [ReplayCursor.amd64Context, views]
  rw [asked]
  refine ⟨?_, right, stepsAlike_withCursor process _⟩
  rw [answer, Option.map_some, threadStateOf, stepCursorPc, contexts]
  cases process.cursors.step.cursor.amd64Context tid <;> rfl

/-- The fast process and the portable one during a range step of a known
thread. -/
structure RangeAlike (tid : UInt32) (fast portable : TtdProcess σ) : Prop where
  alike : StepsAlike fast portable
  coherent : portable.Coherent
  known : portable.metadata.threads.containsOsTid tid

/-- The same after a completed step. -/
structure RangeLanded (tid : UInt32) (fast portable : TtdProcess σ) : Prop extends
    RangeAlike tid fast portable where
  landed : portable.cursors.step.cursor.position = portable.position

omit [LawfulSdkCursor σ] in
theorem RangeAlike.step {tid : UInt32} {fast portable : TtdProcess σ}
    (alike : RangeAlike tid fast portable) :
    SameResult (RangeAlike tid) fast.step portable.step := by
  obtain ⟨same, stepped⟩ := alike.alike.stepOnStepCursor false
  refine ⟨same, stepped, alike.coherent.stepOnStepCursor false, ?_⟩
  rw [show portable.step.2.metadata = portable.metadata from
    (frame_stepOnStepCursor portable false).metadata]
  exact alike.known

/-- The range steps end alike, whatever the fuel. -/
theorem Coherent.rangeLoops {process : TtdProcess σ} (coherent : process.Coherent)
    {threadId : UInt64} {tid : UInt32} (narrow : u32TryFrom threadId = some tid)
    (known : process.metadata.threads.containsOsTid tid) (start finish : UInt64) (fuel : Nat) :
    Option.Rel (SameResult (RangeAlike tid))
      (rangeLoop (fun _ => false) TtdProcess.step
        (fun process => (some (process.stepCursorPc tid), process)) TtdProcess.position
        (pcInRange start finish) fuel 0 process.position process)
      (process.stepRangeDefault (some threadId) start finish fuel) := by
  have completed (fast portable : TtdProcess σ) (alike : RangeAlike tid fast portable)
      (done : fast.step.1 = .returned (.ok .stepComplete)) :
      RangeLanded tid fast.step.2 portable.step.2 := by
    obtain ⟨same, stepped⟩ := alike.step
    exact ⟨stepped, position_of_stepped portable false .stepComplete (same.symm.trans done)⟩
  refine rangeLoop_lockstep (fun fast portable alike => alike.step) completed ?_
    (fun fast portable alike => alike.alike.position) fuel 0 process.position
    ⟨StepsAlike.refl process, coherent, known⟩
  intro fast portable ⟨alike, landed⟩
  obtain ⟨rip, right, kept⟩ := alike.coherent.rip_threadState landed narrow alike.known
  have samePc : fast.stepCursorPc tid = portable.stepCursorPc tid := by
    rw [stepCursorPc, stepCursorPc, alike.alike.step]
  refine ⟨?_, alike.alike.trans kept.symm, right, ?_⟩
  · rw [samePc]
    exact rip.symm
  · rw [kept.metadata]
    exact alike.known

omit [LawfulSdkCursor σ] in
/-- The fast range step is its loop even for an empty range: no PC is inside,
so the loop ends with its first step. -/
theorem stepRange_eq_loop (process : TtdProcess σ) {threadId : UInt64} {tid : UInt32}
    (narrow : u32TryFrom threadId = some tid)
    (known : process.metadata.threads.containsOsTid tid) (start finish : UInt64) (fuel : Nat) :
    process.stepRange (some threadId) start finish (fun _ => 0) (fuel + 1) =
      rangeLoop (fun _ => false) TtdProcess.step
        (fun process => (some (process.stepCursorPc tid), process)) TtdProcess.position
        (pcInRange start finish) (fuel + 1) 0 process.position process := by
  have sameTid : process.stepRangeTid (some threadId) = tid := by
    simp [stepRangeTid, resolveStepRangeTid, narrow, Option.filter_some, known]
  rw [stepRange, sameTid]
  by_cases empty : start ≥ finish
  · have outside (pc : UInt64) : pcInRange start finish pc = false := by
      rw [pcInRange, Bool.and_eq_false_iff, decide_eq_false_iff_not, decide_eq_false_iff_not]
      by_cases above : start ≤ pc
      · exact .inr (UInt64.not_lt.mpr (UInt64.le_trans empty above))
      · exact .inl above
    rcases stepEq : process.step with ⟨outcome, next⟩
    rw [if_pos empty, show process.stepOnStepCursor false = (outcome, next) from stepEq]
    by_cases done : outcome = .returned (.ok .stepComplete)
    · subst outcome
      rw [rangeLoop_completed Bool.false_ne_true stepEq]
      simp [outside]
    · rw [rangeLoop_otherwise Bool.false_ne_true stepEq done]
  · rw [if_neg empty]
    rfl

end TtdProcess

/-- In every reachable state and for every range, the two range steps of a
known thread return, say the same, and leave the same position and thread. -/
theorem stepRange_agrees_of_run {σ : Type} [SdkCursor σ] [LawfulSdkCursor σ]
    (metadata : TraceMetadata) (persistent step : σ) (probe : Option σ) {ops : List Op}
    {process : TtdProcess σ}
    (run : Run TtdProcess.perform AnyStep (.openTrace metadata persistent step probe) ops process)
    {threadId : UInt64} {tid : UInt32} (narrow : u32TryFrom threadId = some tid)
    (known : process.metadata.threads.containsOsTid tid) (start finish : UInt64) {fuel : Nat}
    (enough : 2 ^ 128 ≤ fuel) :
    ∃ outcome fast portable,
      process.stepRange (some threadId) start finish (fun _ => 0) fuel = some (outcome, fast) ∧
      process.stepRangeDefault (some threadId) start finish fuel = some (outcome, portable) ∧
      fast.position = portable.position ∧ fast.currentThreadId = portable.currentThreadId := by
  obtain ⟨turns, rfl⟩ : ∃ turns, fuel = turns + 1 :=
    Nat.exists_eq_add_one_of_ne_zero (by omega)
  have coherent : process.Coherent := TtdProcess.coherent_of_run run
  have loops := coherent.rangeLoops narrow known start finish (turns + 1)
  rw [← process.stepRange_eq_loop narrow known] at loops
  have returns : (process.stepRangeDefault (some threadId) start finish (turns + 1)).isSome :=
    rangeLoop_returns (by omega) process
  obtain ⟨⟨outcome, portable⟩, ended⟩ := Option.isSome_iff_exists.mp returns
  rw [ended] at loops
  cases ended' : process.stepRange (some threadId) start finish (fun _ => 0) (turns + 1) with
  | none =>
      rw [ended'] at loops
      cases loops
  | some result =>
      obtain ⟨outcome', fast⟩ := result
      rw [ended', Option.rel_some_some] at loops
      obtain ⟨same, alike⟩ := loops
      obtain rfl : outcome' = outcome := same
      exact ⟨outcome', fast, portable, rfl, ended, alike.alike.position,
        alike.alike.currentThreadId⟩

theorem steppedTrace_stepRange_agrees :
    ∃ process, exec TtdProcess.perform steppedTrace [.goto ⟨2, 0⟩] = some process ∧
      ∃ outcome fast portable,
        process.stepRange (some 1) 0 0x100 (fun _ => 0) (2 ^ 128) = some (outcome, fast) ∧
        process.stepRangeDefault (some 1) 0 0x100 (2 ^ 128) = some (outcome, portable) ∧
        fast.position = portable.position ∧ fast.currentThreadId = portable.currentThreadId := by
  have executed : exec TtdProcess.perform steppedTrace [.goto ⟨2, 0⟩] =
      some (steppedTrace.goto ⟨2, 0⟩).2 := rfl
  have known : (steppedTrace.goto ⟨2, 0⟩).2.metadata.threads.containsOsTid 1 = true := by
    decide +kernel
  exact ⟨_, executed, stepRange_agrees_of_run _ _ _ _ (run_of_exec executed)
    (show u32TryFrom 1 = some 1 from rfl) known 0 0x100 (Nat.le_refl _)⟩

end TtdGdbserver.Target
