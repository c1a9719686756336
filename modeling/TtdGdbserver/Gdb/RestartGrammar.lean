import TtdGdbserver.Gdb.Commands

/-!
# What a restart argument may say

The three forms of a `vRun` argument as a grammar, for any target behind the
commands.  A target that records its jumps shows that an argument outside the
grammar never moves it.
-/

namespace TtdGdbserver.Gdb

open TtdGdbserver.Target TtdGdbserver.Text TtdGdbserver.Ttd

/-! ## The grammar -/

/-- Two hexadecimal numbers around the first colon. -/
def PositionText (text : Text) (pos : TtdPosition) : Prop :=
  ∃ seq steps, text = seq ++ ':' :: steps ∧ ':' ∉ seq ∧
    ReadsAs 16 seq pos.sequence ∧ ReadsAs 16 steps pos.steps

/-- A decimal number behind a `c` or a `C`. -/
def CheckpointText (text : Text) (id : UInt64) : Prop :=
  ∃ marker idStr, (marker = 'c' ∨ marker = 'C') ∧ text = marker :: idStr ∧ ReadsAs 10 idStr id

/-- The text names the position.  With a colon it is a position; without one it
is empty, for the start of the trace, or names a live checkpoint. -/
def Names (lifetime : TtdPosition × TtdPosition) (checkpoints : CheckpointTable) (text : Text)
    (pos : TtdPosition) : Prop :=
  if ':' ∈ text then PositionText text pos
  else text = [] ∧ pos = lifetime.1 ∨
    ∃ id, CheckpointText text id ∧ checkpoints.position id = some pos

/-! ## The parser follows the grammar -/

section Parser

variable {lifetime : TtdPosition × TtdPosition} {checkpoints : CheckpointTable}

theorem fromStrRadix_hex_iff (text : Text) (value : UInt64) :
    fromStrRadix 16 text = some value ↔ ReadsAs 16 text value :=
  fromStrRadix_eq_some_iff (by decide) text value

theorem fromStrRadix_decimal_iff (text : Text) (value : UInt64) :
    fromStrRadix 10 text = some value ↔ ReadsAs 10 text value :=
  fromStrRadix_eq_some_iff (by decide) text value

theorem positionText_iff {seq steps : Text} (noColon : ':' ∉ seq) (pos : TtdPosition) :
    PositionText (seq ++ ':' :: steps) pos ↔
      fromStrRadix 16 seq = some pos.sequence ∧ fromStrRadix 16 steps = some pos.steps := by
  rw [fromStrRadix_hex_iff, fromStrRadix_hex_iff]
  constructor
  · rintro ⟨seq', steps', split, noColon', sequence, steps_⟩
    have first := congrArg (splitOnce ':') split
    rw [splitOnce_append noColon, splitOnce_append noColon'] at first
    cases first
    exact ⟨sequence, steps_⟩
  · rintro ⟨sequence, steps_⟩
    exact ⟨seq, steps, rfl, noColon, sequence, steps_⟩

theorem restartTarget_position {seq steps : Text} (noColon : ':' ∉ seq) (pos : TtdPosition) :
    restartTarget lifetime checkpoints (seq ++ ':' :: steps) = .ok pos ↔
      PositionText (seq ++ ':' :: steps) pos := by
  rw [positionText_iff noColon]
  simp only [restartTarget, splitOnce_append noColon]
  rcases pos with ⟨sequence, steps_⟩
  cases fromStrRadix 16 seq <;> cases fromStrRadix 16 steps <;> simp

theorem exists_checkpointText_iff {marker : Char} {idStr : Text} (pos : TtdPosition) :
    (∃ id, CheckpointText (marker :: idStr) id ∧ checkpoints.position id = some pos) ↔
      (marker = 'c' ∨ marker = 'C') ∧
        ((fromStrRadix 10 idStr).bind checkpoints.position) = some pos := by
  rw [Option.bind_eq_some_iff]
  constructor
  · rintro ⟨id, ⟨_, _, marked, same, number⟩, saved⟩
    cases same
    exact ⟨marked, id, (fromStrRadix_decimal_iff idStr id).mpr number, saved⟩
  · rintro ⟨marked, id, read, saved⟩
    exact ⟨id, ⟨marker, idStr, marked, rfl, (fromStrRadix_decimal_iff idStr id).mp read⟩, saved⟩

/-- Without a colon, the order of the checks does not matter: the empty text is
no checkpoint. -/
theorem restartTarget_bare {text : Text} (noColon : ':' ∉ text) (pos : TtdPosition) :
    restartTarget lifetime checkpoints text = .ok pos ↔
      text = [] ∧ pos = lifetime.1 ∨
        ∃ id, CheckpointText text id ∧ checkpoints.position id = some pos := by
  unfold restartTarget
  rw [splitOnce_eq_none noColon]
  cases text with
  | nil =>
      have nothing : ¬ ∃ id, CheckpointText [] id ∧ checkpoints.position id = some pos := by
        rintro ⟨_, ⟨_, _, _, same, _⟩, _⟩
        contradiction
      simp only [nothing, or_false, true_and, Except.ok.injEq]
      exact eq_comm
  | cons marker idStr =>
      rw [exists_checkpointText_iff]
      by_cases marked : marker = 'c' ∨ marker = 'C'
      · simp only [marked, if_true, true_and, reduceCtorEq, false_and, false_or]
        cases fromStrRadix 10 idStr with
        | none => simp
        | some id => cases saved : checkpoints.position id <;> simp [saved]
      · simp [marked]

theorem restartTarget_eq_ok_iff (text : Text) (pos : TtdPosition) :
    restartTarget lifetime checkpoints text = .ok pos ↔
      Names lifetime checkpoints text pos := by
  unfold Names
  split
  · rename_i colon
    obtain ⟨seq, steps, rfl, noColon⟩ := List.eq_append_cons_of_mem colon
    exact restartTarget_position noColon pos
  · rename_i noColon
    exact restartTarget_bare noColon pos

end Parser

/-! ## The target moves once or not at all -/

/-- A target together with the jumps it was sent on. -/
structure Recording (T : Type) where
  target : T
  jumps : List TtdPosition

instance {T : Type} [CommandTarget T] : CommandTarget (Recording T) where
  position recording := CommandTarget.position recording.target
  lifetime recording := CommandTarget.lifetime recording.target
  goto recording pos :=
    let (outcome, target) := CommandTarget.goto recording.target pos
    (outcome, ⟨target, recording.jumps ++ [pos]⟩)

/-- The first argument as `vRun` reads it. -/
def restartText (args : List (List UInt8)) : Text :=
  match args with
  | [] => []
  | first :: _ => trim (fromUtf8Lossy first)

section Jumps

variable {T : Type} [CommandTarget T]

/-- An argument of the grammar is one jump to the position it names. -/
theorem handleVrun_of_names {backend : T} {checkpoints : CheckpointTable}
    {args : List (List UInt8)} {pos : TtdPosition}
    (names : Names (CommandTarget.lifetime backend) checkpoints (restartText args) pos) :
    handleVrun backend checkpoints args = CommandTarget.goto backend pos := by
  have aimed := (restartTarget_eq_ok_iff _ pos).mpr names
  cases args <;> simp only [restartText] at aimed <;> simp only [handleVrun, aimed]

/-- Any other argument is refused where the target stands. -/
theorem handleVrun_of_not_names {backend : T} {checkpoints : CheckpointTable}
    {args : List (List UInt8)}
    (nothing : ∀ pos,
      ¬ Names (CommandTarget.lifetime backend) checkpoints (restartText args) pos) :
    ∃ error, handleVrun backend checkpoints args = (.error error, backend) := by
  cases aimed : restartTarget (CommandTarget.lifetime backend) checkpoints (restartText args) with
  | ok pos => exact absurd ((restartTarget_eq_ok_iff _ pos).mp aimed) (nothing pos)
  | error error =>
      refine ⟨error, ?_⟩
      cases args <;> simp only [restartText] at aimed <;> simp only [handleVrun, aimed]

end Jumps

/-! ## Printed positions -/

theorem restartText_formatPosition (pos : TtdPosition) :
    restartText [asBytes (formatPosition pos)] = formatPosition pos := by
  rw [restartText, fromUtf8Lossy_asBytes]
  exact trim_eq_self (visible_formatPosition pos)

theorem names_formatPosition_iff (lifetime : TtdPosition × TtdPosition)
    (checkpoints : CheckpointTable) (pos named : TtdPosition) :
    Names lifetime checkpoints (formatPosition pos) named ↔ named = pos := by
  rw [← restartTarget_eq_ok_iff, restartTarget_formatPosition, Except.ok.injEq]
  exact eq_comm

theorem not_checkpointText_formatPosition (pos : TtdPosition) (id : UInt64) :
    ¬ CheckpointText (formatPosition pos) id := by
  rintro ⟨marker, idStr, marked, same, number⟩
  have colon : ':' ∈ marker :: idStr := by
    rw [← same, formatPosition]
    simp
  rcases List.mem_cons.mp colon with rfl | later
  · rcases marked with marked | marked <;> exact absurd marked (by decide)
  · exact number.not_mem rfl (by decide) later

/-- `vRun` accepts exactly the grammar: a named position is one jump to it, any
other argument moves nothing, and a printed position names itself and no
checkpoint. -/
theorem handleVrun_grammar {T : Type} [CommandTarget T] (backend : T)
    (jumps : List TtdPosition) (checkpoints : CheckpointTable) (args : List (List UInt8)) :
    (∀ pos, Names (CommandTarget.lifetime backend) checkpoints (restartText args) pos →
      handleVrun (Recording.mk backend jumps) checkpoints args =
        ((CommandTarget.goto backend pos).1,
          ⟨(CommandTarget.goto backend pos).2, jumps ++ [pos]⟩)) ∧
    ((∀ pos, ¬ Names (CommandTarget.lifetime backend) checkpoints (restartText args) pos) →
      ∃ error, handleVrun (Recording.mk backend jumps) checkpoints args =
        (.error error, ⟨backend, jumps⟩)) ∧
    ∀ pos, restartText [asBytes (formatPosition pos)] = formatPosition pos ∧
      (∀ named, Names (CommandTarget.lifetime backend) checkpoints (formatPosition pos) named ↔
        named = pos) ∧
      ∀ id, ¬ CheckpointText (formatPosition pos) id := by
  refine ⟨?_, ?_, ?_⟩
  · intro pos names
    exact handleVrun_of_names names
  · intro nothing
    exact handleVrun_of_not_names nothing
  · intro pos
    exact ⟨restartText_formatPosition pos, names_formatPosition_iff _ _ pos,
      not_checkpointText_formatPosition pos⟩

end TtdGdbserver.Gdb
