import TtdGdbserver.Target.Process.Execution

/-!
# Operations of a process as data

The operations of `DebugTarget` as labels of a transition system, and a record
of every single step an operation issues.  The record of a range step comes
from running its own loop over a state that carries the record along;
`rangeLoop_project` says that the loop runs as without it.
-/

namespace TtdGdbserver.Target

open TtdGdbserver.Ttd

/-! ## Labels -/

/-- The execution methods.  `epoch` is what each iteration of a range step loads
from the interrupt epoch. -/
inductive ExecOp where
  | step
  | stepBack
  | stepRange (threadId : Option UInt64) (start finish : UInt64) (epoch : Nat → UInt64)
  | continueForward
  | continueBackward

/-- The query methods. -/
inductive Query where
  | readMemory (addr : UInt64) (buf : List UInt8)
  | readMemoryRanges (addr : UInt64) (buf : List UInt8) (maxRanges : UInt32)
  | activeThreadIds
  | threadState (threadId : Option UInt64)
  | threadInfo (threadId : UInt64)

/-- The answers to the queries. -/
inductive Answer where
  | memory (read : Nat × List UInt8)
  | ranges (read : (Nat × List TtdMemRange) × List UInt8)
  | threads (ids : List UInt64)
  | state (state : Option (TtdX64Regs × UInt64))
  | info (info : Option TtdProcess.ThreadExtraInfoData)

/-- The operations of a process; `fuel` bounds the loops of an execution. -/
inductive Op where
  | exec (op : ExecOp) (fuel : Nat)
  | goto (position : TtdPosition)
  | setCurrentThread (id : UInt64)
  | breakpoint (call : BreakpointState.Call)
  | query (query : Query)

/-- A step operation runs on the step cursor; the others are continues. -/
def ExecOp.isStep : ExecOp → Bool
  | .step | .stepBack | .stepRange .. => true
  | .continueForward | .continueBackward => false

namespace TtdProcess

variable {σ : Type} [SdkCursor σ]

/-- Run an execution method. -/
def execute (process : TtdProcess σ) (fuel : Nat) :
    ExecOp → Option (Unwind (Except DebugError StopReason) × TtdProcess σ)
  | .step => some process.step
  | .stepBack => some process.stepBack
  | .stepRange threadId start finish epoch =>
      process.stepRange threadId start finish epoch fuel
  | .continueForward => process.continueForward fuel
  | .continueBackward => process.continueBackward fuel

/-- Answer a query. -/
def ask (process : TtdProcess σ) : Query → Answer × TtdProcess σ
  | .readMemory addr buf => (process.readMemory addr buf).map .memory id
  | .readMemoryRanges addr buf maxRanges =>
      (process.readMemoryRanges addr buf maxRanges).map .ranges id
  | .activeThreadIds => process.activeThreadIds.map .threads id
  | .threadState threadId => (process.threadState threadId).map .state id
  | .threadInfo threadId => (process.threadInfo threadId).map .info id

/-- One operation; `none` if its loop runs out of fuel. -/
def perform (process : TtdProcess σ) : Op → Option (TtdProcess σ)
  | .exec op fuel => (process.execute fuel op).map Prod.snd
  | .goto position => some (process.goto position).2
  | .setCurrentThread id => some (process.setCurrentThread id)
  | .breakpoint call => some (process.breakpointCall call).2
  | .query query => some (process.ask query).2

end TtdProcess

/-! ## The loop of a range step -/

section RangeLoop

variable {S T : Type} {interrupted : Nat → Bool}
  {step : S → Unwind (Except DebugError StopReason) × S} {readPc : S → Option UInt64 × S}
  {position : S → TtdPosition} {inRange : UInt64 → Bool}

theorem rangeLoop_interrupted {iteration : Nat} (poll : interrupted iteration = true)
    (fuel : Nat) (previous : TtdPosition) (state : S) :
    rangeLoop interrupted step readPc position inRange (fuel + 1) iteration previous state =
      some (.returned (.ok .interrupted), state) := by
  rw [rangeLoop, if_pos poll]

theorem rangeLoop_otherwise {iteration : Nat} (poll : interrupted iteration ≠ true)
    {state next : S} {outcome : Unwind (Except DebugError StopReason)}
    (stepEq : step state = (outcome, next)) (other : outcome ≠ .returned (.ok .stepComplete))
    (fuel : Nat) (previous : TtdPosition) :
    rangeLoop interrupted step readPc position inRange (fuel + 1) iteration previous state =
      some (outcome, next) := by
  rw [rangeLoop, if_neg poll, stepEq]
  split
  · rename_i completed
    cases completed
    contradiction
  · rename_i same
    cases same
    rfl

theorem rangeLoop_completed {iteration : Nat} (poll : interrupted iteration ≠ true)
    {state next : S} (stepEq : step state = (.returned (.ok .stepComplete), next))
    (fuel : Nat) (previous : TtdPosition) :
    rangeLoop interrupted step readPc position inRange (fuel + 1) iteration previous state =
      match readPc next with
      | (none, after) => some (.returned (.ok .stepComplete), after)
      | (some pc, after) =>
          if inRange pc = true ∧ previous < position after then
            rangeLoop interrupted step readPc position inRange fuel (iteration + 1)
              (position after) after
          else some (.returned (.ok .stepComplete), after) := by
  rw [rangeLoop, if_neg poll, stepEq]
  dsimp only
  rcases readPc next with ⟨pc, after⟩
  cases pc with
  | none => rfl
  | some pc =>
      by_cases inside : inRange pc = true
      · by_cases advanced : previous < position after
        · simp [inside, advanced]
        · simp [inside, advanced, not_lt.mp advanced]
      · simp [inside]

/-- What a turn of the loop can do, and what that makes of the loop. -/
inductive RangeTurn (interrupted : Nat → Bool)
    (step : S → Unwind (Except DebugError StopReason) × S) (readPc : S → Option UInt64 × S)
    (position : S → TtdPosition) (inRange : UInt64 → Bool) (iteration : Nat)
    (previous : TtdPosition) (state : S) : Prop
  /-- The poll finds an interrupt. -/
  | interrupted (poll : interrupted iteration = true)
      (ends : ∀ fuel,
        rangeLoop interrupted step readPc position inRange (fuel + 1) iteration previous state =
          some (.returned (.ok .interrupted), state))
  /-- The step does not complete. -/
  | otherwise {outcome : Unwind (Except DebugError StopReason)} {next : S}
      (quiet : interrupted iteration = false)
      (stepEq : step state = (outcome, next)) (other : outcome ≠ .returned (.ok .stepComplete))
      (ends : ∀ fuel,
        rangeLoop interrupted step readPc position inRange (fuel + 1) iteration previous state =
          some (outcome, next))
  /-- There is no PC in the range, or the step did not advance. -/
  | left {next after : S} {pc : Option UInt64} (quiet : interrupted iteration = false)
      (stepEq : step state = (.returned (.ok .stepComplete), next))
      (readEq : readPc next = (pc, after))
      (leaves : (∀ value, pc = some value → inRange value = false) ∨
        ¬ previous < position after)
      (ends : ∀ fuel,
        rangeLoop interrupted step readPc position inRange (fuel + 1) iteration previous state =
          some (.returned (.ok .stepComplete), after))
  | goesOn {next after : S} {pc : UInt64} (quiet : interrupted iteration = false)
      (stepEq : step state = (.returned (.ok .stepComplete), next))
      (readEq : readPc next = (some pc, after)) (advanced : previous < position after)
      (again : ∀ fuel,
        rangeLoop interrupted step readPc position inRange (fuel + 1) iteration previous state =
          rangeLoop interrupted step readPc position inRange fuel (iteration + 1)
            (position after) after)

theorem rangeLoop_turn (iteration : Nat) (previous : TtdPosition) (state : S) :
    RangeTurn interrupted step readPc position inRange iteration previous state := by
  cases poll : interrupted iteration with
  | true => exact .interrupted poll fun fuel => rangeLoop_interrupted poll fuel previous state
  | false =>
      have quiet : interrupted iteration ≠ true := by simp [poll]
      rcases stepEq : step state with ⟨outcome, next⟩
      by_cases done : outcome = .returned (.ok .stepComplete)
      · subst outcome
        have turn (fuel : Nat) :
            rangeLoop interrupted step readPc position inRange (fuel + 1) iteration previous
              state = _ :=
          rangeLoop_completed quiet stepEq fuel previous
        rcases readEq : readPc next with ⟨pc, after⟩
        simp only [readEq] at turn
        cases pc with
        | none => exact .left poll stepEq readEq (.inl fun _ none => nomatch none) turn
        | some pc =>
            by_cases goesOn : inRange pc = true ∧ previous < position after
            · exact .goesOn poll stepEq readEq goesOn.2 fun fuel =>
                (turn fuel).trans (if_pos goesOn)
            · refine .left poll stepEq readEq ?_ fun fuel => (turn fuel).trans (if_neg goesOn)
              rw [not_and_or, Bool.not_eq_true] at goesOn
              exact goesOn.imp_left fun outside value same => Option.some.inj same ▸ outside
      · exact .otherwise poll stepEq done fun fuel =>
          rangeLoop_otherwise quiet stepEq done fuel previous

/-- `inv` holds while the loop goes on, `post` when it is over. -/
theorem rangeLoop_spec (inv : S → Prop) (post : Unwind (Except DebugError StopReason) → S → Prop)
    (completed : ∀ state next, inv state → step state = (.returned (.ok .stepComplete), next) →
      inv next)
    (read : ∀ state, inv state → inv (readPc state).2)
    (otherwise : ∀ state outcome next, inv state → step state = (outcome, next) →
      outcome ≠ .returned (.ok .stepComplete) → post outcome next)
    (stopped : ∀ state reason, inv state → reason = .interrupted ∨ reason = .stepComplete →
      post (.returned (.ok reason)) state)
    {fuel iteration : Nat} {previous : TtdPosition} {state finish : S}
    {outcome : Unwind (Except DebugError StopReason)}
    (finished : rangeLoop interrupted step readPc position inRange fuel iteration previous state =
      some (outcome, finish))
    (initial : inv state) : post outcome finish := by
  induction fuel generalizing iteration previous state with
  | zero => contradiction
  | succ fuel ih =>
      have turn : RangeTurn interrupted step readPc position inRange iteration previous state :=
        rangeLoop_turn iteration previous state
      cases turn with
      | interrupted _ ends =>
          cases (ends fuel).symm.trans finished
          exact stopped _ _ initial (.inl rfl)
      | otherwise _ stepEq other ends =>
          cases (ends fuel).symm.trans finished
          exact otherwise _ _ _ initial stepEq other
      | @left next after pc _ stepEq readEq _ ends =>
          cases (ends fuel).symm.trans finished
          have readInv := read _ (completed _ _ initial stepEq)
          rw [readEq] at readInv
          exact stopped _ _ readInv (.inr rfl)
      | goesOn _ stepEq readEq _ again =>
          have readInv := read _ (completed _ _ initial stepEq)
          rw [readEq] at readInv
          exact ih ((again fuel).symm.trans finished) readInv

/-- The loop over a richer state runs as the loop over its projection. -/
theorem rangeLoop_project {step' : T → Unwind (Except DebugError StopReason) × T}
    {readPc' : T → Option UInt64 × T} {position' : T → TtdPosition} (project : T → S)
    (steps : ∀ state, step (project state) = (step' state).map id project)
    (reads : ∀ state, readPc (project state) = (readPc' state).map id project)
    (positions : ∀ state, position (project state) = position' state)
    (fuel iteration : Nat) (previous : TtdPosition) (state : T) :
    rangeLoop interrupted step readPc position inRange fuel iteration previous (project state) =
      (rangeLoop interrupted step' readPc' position' inRange fuel iteration previous state).map
        (Prod.map id project) := by
  induction fuel generalizing iteration previous state with
  | zero => rfl
  | succ fuel ih =>
      by_cases poll : interrupted iteration = true
      · rw [rangeLoop_interrupted poll, rangeLoop_interrupted poll]
        rfl
      · rcases stepEq : step' state with ⟨outcome, next⟩
        have projected : step (project state) = (outcome, project next) := by
          rw [steps, stepEq]
          rfl
        by_cases done : outcome = .returned (.ok .stepComplete)
        · subst outcome
          rw [rangeLoop_completed poll projected, rangeLoop_completed poll stepEq, reads]
          rcases readPc' next with ⟨pc, after⟩
          cases pc with
          | none => rfl
          | some pc =>
              simp only [Prod.map_apply, id, positions]
              split
              · exact ih _ _ _
              · rfl
        · rw [rangeLoop_otherwise poll projected done, rangeLoop_otherwise poll stepEq done]
          rfl

end RangeLoop

/-! ## The single steps of an operation -/

/-- A single step: the debug position it was asked for at, the position of the
step cursor when its replay call was issued, what the call returned and where
it landed. -/
structure SingleStep where
  debugPosition : TtdPosition
  issuedFrom : TtdPosition
  outcome : Unwind (Except TtdError TtdReplayResult)
  landed : TtdPosition

namespace TtdProcess

variable {σ : Type} [SdkCursor σ]

/-- The step cursor as a single step finds it. -/
def stepSource (process : TtdProcess σ) : ReplayCursor σ :=
  (process.cursors.step.prepare process.position).2.cursor

/-- The single step that the process would issue. -/
def singleStep (process : TtdProcess σ) (backward : Bool) : SingleStep where
  debugPosition := process.position
  issuedFrom := process.stepSource.position
  outcome := (stepReplay process.stepSource backward).1
  landed := (stepReplay process.stepSource backward).2.position

/-- `step` with the record of the single steps so far. -/
def recordedStep (recorded : TtdProcess σ × List SingleStep) :
    Unwind (Except DebugError StopReason) × TtdProcess σ × List SingleStep :=
  let (process, steps) := recorded
  let (outcome, next) := process.step
  (outcome, next, steps ++ [process.singleStep false])

/-- A range step whose state carries the record of its single steps. -/
def recordedRange (process : TtdProcess σ) (threadId : Option UInt64) (start finish : UInt64)
    (epoch : Nat → UInt64) (fuel : Nat) :
    Option (Unwind (Except DebugError StopReason) × TtdProcess σ × List SingleStep) :=
  let tid := process.stepRangeTid threadId
  rangeLoop (fun iteration => epoch iteration != 0) recordedStep
    (fun recorded => (some (recorded.1.stepCursorPc tid), recorded))
    (fun recorded => recorded.1.position) (pcInRange start finish) fuel 0 process.position
    (process, [])

/-- The single steps that an operation issues, in order. -/
def singleSteps (process : TtdProcess σ) (fuel : Nat) : ExecOp → List SingleStep
  | .step => [process.singleStep false]
  | .stepBack => [process.singleStep true]
  | .stepRange threadId start finish epoch =>
      if start ≥ finish then [process.singleStep false]
      else ((process.recordedRange threadId start finish epoch fuel).map
        fun recorded => recorded.2.2).getD []
  | .continueForward => []
  | .continueBackward => []

/-- Recording does not disturb a range step. -/
theorem stepRange_eq_recordedRange (process : TtdProcess σ) (threadId : Option UInt64)
    {start finish : UInt64} (nonempty : ¬start ≥ finish) (epoch : Nat → UInt64) (fuel : Nat) :
    process.stepRange threadId start finish epoch fuel =
      (process.recordedRange threadId start finish epoch fuel).map
        (Prod.map id Prod.fst) := by
  simp only [stepRange, if_neg nonempty, recordedRange]
  exact rangeLoop_project (T := TtdProcess σ × List SingleStep) Prod.fst (fun _ => rfl)
    (fun _ => rfl) (fun _ => rfl) fuel 0 process.position (process, [])

end TtdProcess

end TtdGdbserver.Target
