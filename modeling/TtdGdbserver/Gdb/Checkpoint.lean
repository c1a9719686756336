import Std.Data.ExtTreeMap
import TtdGdbserver.Text.Number
import TtdGdbserver.Ttd.Types

/-!
# rr-style checkpoints

A checkpoint is a saved position and the text that the client parses back.  The
table belongs to the trace and outlives the sessions.  Its id counter wraps as
the unsigned counter of the source does.
-/

namespace TtdGdbserver.Gdb

open TtdGdbserver.Text TtdGdbserver.Ttd

/-- rr's `when` string: `SEQ:STEPS` in hex. -/
def formatPosition (pos : TtdPosition) : Text :=
  upperHex pos.sequence ++ ':' :: upperHex pos.steps

/-- The characters that separate the fields and the rows of the listing. -/
def separators : List Char := ['\t', '\n', '\r']

/-- A saved position.  Its texts do not disturb the listing. -/
structure Checkpoint where
  position : TtdPosition
  when : Text
  where_ : Text
  spelled : when = formatPosition position
  oneField : ∀ char ∈ where_, char ∉ separators

/-- The checkpoints of a server, by the ids that were handed out for them. -/
structure CheckpointTable where
  byId : Std.ExtTreeMap UInt64 Checkpoint
  nextId : UInt64

namespace CheckpointTable

/-- Ids start at 1. -/
def new : CheckpointTable :=
  ⟨∅, 1⟩

/-- A client's text with a space in place of every separator. -/
def sanitize (where_ : Text) : Text :=
  where_.map fun char => if char ∈ separators then ' ' else char

theorem not_mem_separators_of_sanitize {where_ : Text} :
    ∀ char ∈ sanitize where_, char ∉ separators := by
  intro char mem
  obtain ⟨original, -, rfl⟩ := List.mem_map.mp mem
  split
  case isTrue => decide
  case isFalse kept => exact kept

/-- The acknowledgement that the client parses. -/
def acknowledgement (id : UInt64) (when where_ : Text) : Text :=
  let ack := "Checkpoint ".toList ++ decimal id ++ " at ".toList ++ when
  if where_.isEmpty then ack else ack ++ ' ' :: where_

/-- Save a position under a fresh id: the id and the acknowledgement. -/
def insert (table : CheckpointTable) (pos : TtdPosition) (where_ : Text) :
    (UInt64 × Text) × CheckpointTable :=
  let id := table.nextId
  let saved : Checkpoint :=
    ⟨pos, formatPosition pos, sanitize where_, rfl, not_mem_separators_of_sanitize⟩
  ((id, acknowledgement id saved.when saved.where_), ⟨table.byId.insert id saved, id + 1⟩)

/-- The position a restart from the checkpoint should jump to. -/
def position (table : CheckpointTable) (id : UInt64) : Option TtdPosition :=
  table.byId[id]?.map Checkpoint.position

/-- Remove one id; the result says whether it was there. -/
def remove (table : CheckpointTable) (id : UInt64) : Bool × CheckpointTable :=
  (table.byId[id]?.isSome, { table with byId := table.byId.erase id })

/-- One row of the listing. -/
def row (id : UInt64) (saved : Checkpoint) : Text :=
  let where_ := if saved.where_.isEmpty then ['-'] else saved.where_
  decimal id ++ '\t' :: saved.when ++ '\t' :: where_ ++ ['\n']

/-- `info checkpoints`: a header and one row per checkpoint, in ascending id
order. -/
def render (table : CheckpointTable) : Text :=
  "Num\tWhen\tWhere\n".toList ++ table.byId.toList.flatMap fun (id, saved) => row id saved

/-! ## What the operations do to a saved position -/

@[simp]
theorem nextId_insert (table : CheckpointTable) (pos : TtdPosition) (where_ : Text) :
    (table.insert pos where_).2.nextId = table.nextId + 1 :=
  rfl

@[simp]
theorem nextId_remove (table : CheckpointTable) (id : UInt64) :
    (table.remove id).2.nextId = table.nextId :=
  rfl

theorem position_insert (table : CheckpointTable) (pos : TtdPosition) (where_ : Text)
    (id : UInt64) :
    (table.insert pos where_).2.position id =
      if id = table.nextId then some pos else table.position id := by
  simp only [position, insert, Std.ExtTreeMap.getElem?_insert, Std.LawfulEqOrd.compare_eq_iff_eq,
    eq_comm (a := id)]
  split <;> rfl

theorem position_remove (table : CheckpointTable) (removed id : UInt64) :
    (table.remove removed).2.position id = if id = removed then none else table.position id := by
  simp only [position, remove, Std.ExtTreeMap.getElem?_erase, Std.LawfulEqOrd.compare_eq_iff_eq,
    eq_comm (a := id)]
  split <;> rfl

end CheckpointTable

end TtdGdbserver.Gdb
