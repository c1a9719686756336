import TtdGdbserver.Target.Process.Operations

/-!
# The debug target trait

The methods of `DebugTarget` that a resume or a restart uses, for a backend
with states `β`.  What other threads do meanwhile is an argument `ε` of the
execution methods.  Such a method may panic, and it may not return at all, in
which case it has no result.
-/

namespace TtdGdbserver.Target

open TtdGdbserver.Ttd

/-- How an execution method ends. -/
abbrev Executed := Unwind (Except DebugError StopReason)

/-- An implementation of `DebugTarget`. -/
structure DebugTarget (β ε : Type) where
  step : ε → β → Option (Executed × β)
  stepBack : ε → β → Option (Executed × β)
  stepRange : ε → β → Option UInt64 → UInt64 → UInt64 → Option (Executed × β)
  continueForward : ε → β → Option (Executed × β)
  continueBackward : ε → β → Option (Executed × β)
  goto : β → TtdPosition → Except DebugError StopReason × β
  /-- The query may move a cursor of the backend. -/
  activeThreadIds : β → List UInt64 × β
  currentThreadId : β → Option UInt64
  setCurrentThread : β → UInt64 → β
  position : β → TtdPosition
  lifetime : β → TtdPosition × TtdPosition
  beginResume : β → β
  /-- A query does not move the debug position. -/
  position_activeThreadIds : ∀ backend, position (activeThreadIds backend).2 = position backend
  /-- Neither does the start of a resume. -/
  position_beginResume : ∀ backend, position (beginResume backend) = position backend
  /-- A failed jump leaves the backend where it was. -/
  position_of_goto_error : ∀ backend target error,
    (goto backend target).1 = .error error → position (goto backend target).2 = position backend

/-- `TtdProcess` as a target.  Its loops run for at most `fuel` turns; the
environment gives what each turn of a range step loads from the interrupt
epoch. -/
def TtdProcess.debugTarget (σ : Type) [SdkCursor σ] (fuel : Nat) :
    DebugTarget (TtdProcess σ) (Nat → UInt64) where
  step _ process := some process.step
  stepBack _ process := some process.stepBack
  stepRange epoch process threadId start finish :=
    process.stepRange threadId start finish epoch fuel
  continueForward _ process := process.continueForward fuel
  continueBackward _ process := process.continueBackward fuel
  goto process position := process.goto position
  activeThreadIds process := process.activeThreadIds
  currentThreadId process := process.currentThreadId
  setCurrentThread process id := process.setCurrentThread id
  position process := process.position
  lifetime process := process.lifetime
  -- The epoch that `begin_resume` resets belongs to the interrupt handle.
  beginResume process := process
  position_activeThreadIds process :=
    (TtdProcess.sameDebugState_withCursor process TtdProcess.activeThreadIdsOf).position
  position_beginResume _ := rfl
  position_of_goto_error process target error failed := by
    simp [TtdProcess.goto] at failed

/-- A backend that ends its executions as told, one after the other. -/
structure Script where
  position : TtdPosition
  outcomes : List Executed
  deriving DecidableEq, Repr

namespace Script

/-- The next outcome of the script. -/
def play (_ : Unit) (script : Script) : Option (Executed × Script) :=
  script.outcomes.head?.map fun outcome =>
    (outcome, { script with outcomes := script.outcomes.tail })

/-- The trace ends at sequence 9, and a jump beyond it fails. -/
def target : DebugTarget Script Unit where
  step := play
  stepBack := play
  stepRange env script _ _ _ := play env script
  continueForward := play
  continueBackward := play
  goto script position :=
    if position.sequence ≤ 9 then (.ok .positionReached, { script with position := position })
    else (.error (.invalidCommand "goto"), script)
  activeThreadIds script := ([], script)
  currentThreadId _ := some 100
  setCurrentThread script _ := script
  position script := script.position
  lifetime _ := (⟨1, 0⟩, ⟨9, 0⟩)
  beginResume := id
  position_activeThreadIds _ := rfl
  position_beginResume _ := rfl
  position_of_goto_error script position error failed := by
    by_cases within : position.sequence ≤ 9
    · simp [within] at failed
    · simp [within]

end Script

end TtdGdbserver.Target
