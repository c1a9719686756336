import TtdGdbserver.Gdb.Checkpoint
import TtdGdbserver.Gdb.Packet
import TtdGdbserver.Target.Process.Core

/-!
# Reverse-debugging commands

`qRRCmd` and `vRun`.  They need only a small slice of the debug target: the
position, the lifetime and `goto`.
-/

namespace TtdGdbserver.Gdb

open TtdGdbserver.Target TtdGdbserver.Text TtdGdbserver.Ttd

/-- The slice of a debug target that the commands see. -/
class CommandTarget (T : Type) where
  position : T → TtdPosition
  lifetime : T → TtdPosition × TtdPosition
  goto : T → TtdPosition → Except DebugError Unit × T

/-- The stop reason of a jump is dropped, its error is not. -/
instance {σ : Type} [SdkCursor σ] : CommandTarget (TtdProcess σ) where
  position := TtdProcess.position
  lifetime := TtdProcess.lifetime
  goto process pos := (process.goto pos).map (Except.map fun _ => ()) id

variable {T : Type} [CommandTarget T]

/-! ## `qRRCmd` -/

/-- rr's query for the current position. -/
def whenCommand : Text := "when".toList

/-- rr's command that saves the current position. -/
def checkpointCommand : Text := "checkpoint".toList

/-- rr's command that lists the checkpoints. -/
def infoCheckpointsCommand : Text := "info checkpoints".toList

/-- rr's command that deletes a checkpoint. -/
def deleteCheckpointCommand : Text := "delete checkpoint".toList

/-- The id that `delete checkpoint` names. -/
def deletedId (args : List Text) : Option UInt64 :=
  args[1]?.bind (fromStrRadix 10)

/-- Answer `qRRCmd`; an unknown command gets an empty reply. -/
def handleQrrcmd (backend : T) (checkpoints : CheckpointTable) (args : Text) :
    Text × CheckpointTable :=
  let args := parseQrrcmdArgs args
  match args.head? with
  | none => ([], checkpoints)
  | some command =>
      if command = whenCommand then
        (formatPosition (CommandTarget.position backend), checkpoints)
      else if command = checkpointCommand then
        let where_ := args.getD 1 []
        (checkpoints.insert (CommandTarget.position backend) where_).map Prod.snd id
      else if command = infoCheckpointsCommand then (checkpoints.render, checkpoints)
      else if command = deleteCheckpointCommand then
        match deletedId args with
        | none => ("No such checkpoint".toList, checkpoints)
        | some id =>
            match checkpoints.remove id with
            | (true, checkpoints) => ("Deleted checkpoint ".toList ++ decimal id, checkpoints)
            | (false, checkpoints) => ("No such checkpoint".toList, checkpoints)
      else ([], checkpoints)

/-! ## `vRun` -/

/-- `DebugError::InvalidCommand`. -/
def invalidCommand (message : Text) : DebugError :=
  .invalidCommand (String.ofList message)

/-- The error of a restart whose target names nothing. -/
def unrecognized (posStr : Text) : DebugError :=
  invalidCommand ("vRun: unrecognized restart target '".toList ++ posStr ++ "'".toList)

/-- Where a restart goes.  A position comes first: its sequence may begin with
the digit that marks a checkpoint. -/
def restartTarget (lifetime : TtdPosition × TtdPosition) (checkpoints : CheckpointTable)
    (posStr : Text) : Except DebugError TtdPosition :=
  match splitOnce ':' posStr with
  | some (seq, steps) =>
      match fromStrRadix 16 seq, fromStrRadix 16 steps with
      | some sequence, some steps => .ok ⟨sequence, steps⟩
      | _, _ =>
          .error (invalidCommand ("vRun: malformed position '".toList ++ posStr ++ "'".toList))
  | none =>
      match posStr with
      | [] => .ok lifetime.1
      | first :: idStr =>
          if first = 'c' ∨ first = 'C' then
            match fromStrRadix 10 idStr with
            | none => .error (unrecognized posStr)
            | some id =>
                match checkpoints.position id with
                | none => .error (invalidCommand ("vRun: no such checkpoint ".toList ++ decimal id))
                | some target => .ok target
          else .error (unrecognized posStr)

/-- Handle `vRun` with its arguments; only the first one counts. -/
def handleVrun (backend : T) (checkpoints : CheckpointTable) (args : List (List UInt8)) :
    Except DebugError Unit × T :=
  let posStr := match args with
    | [] => []
    | s :: _ => trim (fromUtf8Lossy s)
  match restartTarget (CommandTarget.lifetime backend) checkpoints posStr with
  | .error error => (.error error, backend)
  | .ok target => CommandTarget.goto backend target

/-! ## The spellings that a restart understands -/

/-- The restart argument for a checkpoint. -/
def checkpointArgument (id : UInt64) : Text :=
  'c' :: decimal id

theorem restartTarget_formatPosition (lifetime : TtdPosition × TtdPosition)
    (checkpoints : CheckpointTable) (pos : TtdPosition) :
    restartTarget lifetime checkpoints (formatPosition pos) = .ok pos := by
  have noColon : ':' ∉ upperHex pos.sequence := fun mem => (spells_upperHex mem).notColon rfl
  simp only [restartTarget, formatPosition, splitOnce_append noColon, fromStrRadix_upperHex]

theorem restartTarget_checkpointArgument (lifetime : TtdPosition × TtdPosition)
    (checkpoints : CheckpointTable) {id : UInt64} {pos : TtdPosition}
    (saved : checkpoints.position id = some pos) :
    restartTarget lifetime checkpoints (checkpointArgument id) = .ok pos := by
  have noColon : ':' ∉ checkpointArgument id := by
    rw [checkpointArgument, List.mem_cons, not_or]
    exact ⟨by decide, fun mem => (spells_decimal mem).notColon rfl⟩
  unfold restartTarget
  rw [splitOnce_eq_none noColon]
  simp only [checkpointArgument, true_or, if_true, fromStrRadix_decimal, saved]

/-- A restart takes an argument without whitespace as it is. -/
theorem handleVrun_asBytes (backend : T) (checkpoints : CheckpointTable) {text : Text}
    (visible : ∀ char ∈ text, isWhitespace char = false) {target : TtdPosition}
    (aimed : restartTarget (CommandTarget.lifetime backend) checkpoints text = .ok target) :
    handleVrun backend checkpoints [asBytes text] = CommandTarget.goto backend target := by
  simp only [handleVrun, fromUtf8Lossy_asBytes, trim_eq_self visible, aimed]

theorem visible_formatPosition (pos : TtdPosition) :
    ∀ char ∈ formatPosition pos, isWhitespace char = false := by
  intro char mem
  rcases List.mem_append.mp mem with sequence | rest
  · exact (spells_upperHex sequence).visible
  · rcases List.mem_cons.mp rest with rfl | steps
    · decide
    · exact (spells_upperHex steps).visible

theorem handleVrun_formatPosition (backend : T) (checkpoints : CheckpointTable)
    (pos : TtdPosition) :
    handleVrun backend checkpoints [asBytes (formatPosition pos)] =
      CommandTarget.goto backend pos :=
  handleVrun_asBytes backend checkpoints (visible_formatPosition pos)
    (restartTarget_formatPosition _ _ pos)

theorem handleVrun_checkpointArgument (backend : T) (checkpoints : CheckpointTable) {id : UInt64}
    {pos : TtdPosition} (saved : checkpoints.position id = some pos) :
    handleVrun backend checkpoints [asBytes (checkpointArgument id)] =
      CommandTarget.goto backend pos := by
  refine handleVrun_asBytes backend checkpoints ?_
    (restartTarget_checkpointArgument _ checkpoints saved)
  intro char mem
  rcases List.mem_cons.mp mem with rfl | digit
  · decide
  · exact (spells_decimal digit).visible

end TtdGdbserver.Gdb
