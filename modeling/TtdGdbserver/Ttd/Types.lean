import Mathlib.Order.Basic
import Mathlib.Tactic.Linarith

/-!
# TTD value types

The vocabulary of `src/ttd/types.rs` and `src/ttd/error.rs`.  Fixed-width
integers of the source are Lean's fixed-width integers, so that wrapping and
saturation happen where they happen in the code.  Positions are ordered as the
derived Rust order does it: by sequence, then by steps.
-/

namespace TtdGdbserver.Ttd

/-! ## Positions -/

/-- A recorded instant: the sequence id of its fragment and the step count
within the fragment. -/
structure TtdPosition where
  sequence : UInt64
  steps : UInt64
  deriving DecidableEq, Repr, Inhabited

namespace TtdPosition

/-- The index of a position in the lexicographic order of all positions. -/
def rank (position : TtdPosition) : Nat :=
  position.sequence.toNat * 2 ^ 64 + position.steps.toNat

/-- There are `2 ^ 128` positions. -/
theorem rank_lt (position : TtdPosition) : position.rank < 2 ^ 128 := by
  have sequenceBound := position.sequence.toNat_lt
  have stepsBound := position.steps.toNat_lt
  unfold rank
  omega

theorem rank_injective : Function.Injective rank := by
  rintro ⟨sequence₁, steps₁⟩ ⟨sequence₂, steps₂⟩ equal
  have bound₁ := steps₁.toNat_lt
  have bound₂ := steps₂.toNat_lt
  simp only [rank] at equal
  have sequenceEq : sequence₁.toNat = sequence₂.toNat := by omega
  have stepsEq : steps₁.toNat = steps₂.toNat := by omega
  rw [UInt64.toNat_inj.mp sequenceEq, UInt64.toNat_inj.mp stepsEq]

instance : LinearOrder TtdPosition := LinearOrder.lift' rank rank_injective

theorem lt_iff_rank {p q : TtdPosition} : p < q ↔ p.rank < q.rank :=
  Iff.rfl

/-- The order by rank is the derived order of the source: the sequence decides,
then the steps. -/
theorem lt_iff {p q : TtdPosition} :
    p < q ↔ p.sequence < q.sequence ∨ p.sequence = q.sequence ∧ p.steps < q.steps := by
  have bound₁ := p.steps.toNat_lt
  have bound₂ := q.steps.toNat_lt
  rw [lt_iff_rank, UInt64.lt_iff_toNat_lt, UInt64.lt_iff_toNat_lt, ← UInt64.toNat_inj]
  unfold rank
  omega

end TtdPosition

/-! ## Data accesses -/

/-- The accesses a watchpoint can observe, one bit per kind (a `bitflags` byte). -/
structure DataAccessMask where
  bits : UInt8
  deriving DecidableEq, Repr, Inhabited

namespace DataAccessMask

/-- Data is read. -/
def read : DataAccessMask := ⟨(1 : UInt8) <<< 0⟩

/-- Data is written. -/
def write : DataAccessMask := ⟨(1 : UInt8) <<< 1⟩

/-- An instruction is executed. -/
def execute : DataAccessMask := ⟨(1 : UInt8) <<< 2⟩

/-- An instruction is fetched. -/
def codeFetch : DataAccessMask := ⟨(1 : UInt8) <<< 3⟩

/-- Data is overwritten. -/
def overwrite : DataAccessMask := ⟨(1 : UInt8) <<< 4⟩

/-- Data differs from what was recorded. -/
def dataMismatch : DataAccessMask := ⟨(1 : UInt8) <<< 5⟩

/-- Data is seen for the first time. -/
def newData : DataAccessMask := ⟨(1 : UInt8) <<< 6⟩

/-- Data is recorded once more. -/
def redundantData : DataAccessMask := ⟨(1 : UInt8) <<< 7⟩

/-- No access. -/
def none : DataAccessMask := ⟨0⟩

/-- Data is read or written. -/
def readWrite : DataAccessMask := ⟨read.bits ||| write.bits⟩

/-- Whether the two masks share a bit. -/
def intersects (mask other : DataAccessMask) : Bool :=
  mask.bits &&& other.bits != 0

end DataAccessMask

/-- The access a watchpoint hit performed, as the SDK's `DataAccessType`. -/
inductive DataAccessType where
  | read
  | write
  | execute
  | codeFetch
  | overwrite
  | dataMismatch
  | newData
  | redundantData
  | unknown (raw : UInt8)
  deriving DecidableEq, Repr

namespace DataAccessType

/-- The single mask bit of an access kind; none for a value outside the
documented set. -/
def mask : DataAccessType → DataAccessMask
  | read => .read
  | write => .write
  | execute => .execute
  | codeFetch => .codeFetch
  | overwrite => .overwrite
  | dataMismatch => .dataMismatch
  | newData => .newData
  | redundantData => .redundantData
  | unknown _ => .none

/-- `From<u8>`. -/
def ofU8 (value : UInt8) : DataAccessType :=
  match value.toNat with
  | 0 => read
  | 1 => write
  | 2 => execute
  | 3 => codeFetch
  | 4 => overwrite
  | 5 => dataMismatch
  | 6 => newData
  | 7 => redundantData
  | _ => unknown value

end DataAccessType

/-! ## Replay results -/

/-- The event kinds that stop a replay, as the SDK's `EventMask`. -/
structure EventMask where
  bits : UInt32
  deriving DecidableEq, Repr, Inhabited

namespace EventMask

/-- A memory watchpoint stops the replay. -/
def memoryWatchpoint : EventMask := ⟨(1 : UInt32) <<< 0⟩

/-- An exception stops the replay. -/
def exception : EventMask := ⟨(1 : UInt32) <<< 2⟩

instance : OrOp EventMask := ⟨fun mask other => ⟨mask.bits ||| other.bits⟩⟩

end EventMask

/-- The exception classes that stop a replay, as the SDK's `ExceptionMask`. -/
structure ExceptionMask where
  bits : UInt32
  deriving DecidableEq, Repr, Inhabited

namespace ExceptionMask

/-- Exceptions of the processor. -/
def hardware : ExceptionMask := ⟨(1 : UInt32) <<< 0⟩

/-- Exceptions that software raises. -/
def software : ExceptionMask := ⟨(1 : UInt32) <<< 1⟩

/-- C++ exceptions. -/
def cPlusPlus : ExceptionMask := ⟨(1 : UInt32) <<< 2⟩

/-- Debug output. -/
def debugPrint : ExceptionMask := ⟨(1 : UInt32) <<< 3⟩

/-- `bitflags`' `all()`: every named class. -/
def all : ExceptionMask :=
  ⟨hardware.bits ||| software.bits ||| cPlusPlus.bits ||| debugPrint.bits⟩

end ExceptionMask

/-- What stopped a replay, as the SDK's `EventType`. -/
inductive EventType where
  | memoryWatchpoint
  | positionWatchpoint
  | exception
  | gap
  | thread
  | stepCount
  | position
  | process
  | interrupted
  | error
  | count
  | unknown (raw : UInt8)
  deriving DecidableEq, Repr

/-- `From<u8>`. -/
def EventType.ofU8 (value : UInt8) : EventType :=
  match value.toNat with
  | 0 => memoryWatchpoint
  | 1 => positionWatchpoint
  | 2 => exception
  | 3 => gap
  | 4 => thread
  | 5 => stepCount
  | 6 => position
  | 7 => process
  | 8 => interrupted
  | 9 => error
  | 10 => count
  | _ => unknown value

/-- The raw outcome of one SDK replay call, as it crosses the bridge. -/
structure ReplayOutcome where
  stopReason : UInt8
  steps : UInt64
  instructions : UInt64
  wpAddress : UInt64
  wpSize : UInt64
  wpAccess : UInt8
  deriving DecidableEq, Repr, Inhabited

/-- The outcome of one replay call.  The `wp` fields describe the access that
stopped the replay when the stop is a memory watchpoint. -/
structure TtdReplayResult where
  stopReason : EventType
  stepsExecuted : UInt64
  instructionsExecuted : UInt64
  wpAddress : UInt64
  wpSize : UInt64
  wpAccessType : DataAccessType
  deriving DecidableEq, Repr

/-- `From<ffi::ReplayOutcome>`. -/
def TtdReplayResult.ofOutcome (value : ReplayOutcome) : TtdReplayResult where
  stopReason := EventType.ofU8 value.stopReason
  stepsExecuted := value.steps
  instructionsExecuted := value.instructions
  wpAddress := value.wpAddress
  wpSize := value.wpSize
  wpAccessType := DataAccessType.ofU8 value.wpAccess

/-! ## Recorded events and threads -/

/-- An exception event of the trace. -/
structure TtdExceptionEvent where
  position : TtdPosition
  code : UInt32
  recordAddress : UInt64
  programCounter : UInt64
  deriving DecidableEq, Repr

/-- A thread of the trace: TTD's unique id and the OS thread id. -/
structure TtdThreadInfo where
  uniqueId : UInt32
  id : UInt32
  deriving DecidableEq, Repr

/-- A run of recovered memory: its address, its size and the sequence it came
from. -/
structure TtdMemRange where
  address : UInt64
  size : UInt64
  sequence : UInt64
  deriving DecidableEq, Repr

/-- The state of the trace's index file. -/
inductive TtdIndexStatus where
  | loaded
  | notPresent
  | unloadable
  | unknown
  deriving DecidableEq, Repr

/-! ## Errors -/

/-- Failures of the TTD layer. -/
inductive TtdError where
  | traceNotFound (path : String)
  | traceLoadFailed (path : String)
  | indexBuildFailed
  | indexFileAccess (path message : String)
  | cursorCreationFailed
  | ffi (call : String)
  | watchpoint (op : String) (addr size : UInt64) (access : DataAccessMask)
  | invalidWatchpoint (addr size : UInt64)
  | replayFailed
  | unsupportedEvent (event : EventType)
  | unsupportedArchitecture
  deriving DecidableEq, Repr

end TtdGdbserver.Ttd
