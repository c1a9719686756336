import TtdGdbserver.Ttd.Types

/-!
# The pending resume action

gdbstub clears the pending action, applies the `vCont` actions in wire order,
and then resumes.
-/

namespace TtdGdbserver.Gdb

/-- A thread id on the wire, a `NonZeroUsize`. -/
abbrev Tid := { id : UInt64 // id ≠ 0 }

/-- What kind of replay the next resume performs. -/
inductive ReplayOp where
  | continue
  | step (tid : Tid)
  | backwardContinue
  | backwardStep (tid : Tid)
  /-- Replay forward until the thread leaves `[start, finish)`. -/
  | rangeStep (tid : Tid) (start finish : UInt64)
  deriving DecidableEq, Repr

namespace ReplayOp

/-- Whether the operation replays forward. -/
def isForward : ReplayOp → Bool
  | .continue | .step _ | .rangeStep .. => true
  | .backwardContinue | .backwardStep _ => false

end ReplayOp

/-- The pending resume action. -/
structure ResumeState where
  pending : ReplayOp
  deriving DecidableEq, Repr

namespace ResumeState

/-- `Default`: a plain continue. -/
def default : ResumeState :=
  ⟨.continue⟩

/-- Consume the pending action. -/
def take (state : ResumeState) : ReplayOp × ResumeState :=
  (state.pending, { state with pending := .continue })

/-- `clear_resume_actions`: the next resume continues. -/
def clear (state : ResumeState) : ResumeState :=
  { state with pending := .continue }

/-- A wildcard continue does not clobber a more specific action. -/
def setContinue (state : ResumeState) : ResumeState :=
  state

/-- The next resume steps this thread. -/
def setStep (state : ResumeState) (tid : Tid) : ResumeState :=
  { state with pending := .step tid }

/-- An empty range is a plain single step. -/
def setRangeStep (state : ResumeState) (tid : Tid) (start finish : UInt64) : ResumeState :=
  { state with pending := if start = finish then .step tid else .rangeStep tid start finish }

end ResumeState

end TtdGdbserver.Gdb
