import TtdGdbserver.Gdb.Commands
import TtdGdbserver.Target.Process.Position

/-!
# Restarting from a saved position

A client saves a position as a checkpoint, or as the text that `when` answers,
and restarts from it later.  A single step is limited by the sentinels of the
engine and may leave the lifetime, while a jump is clamped to it, so exactly
the positions within the lifetime are restored.
-/

namespace TtdGdbserver.Gdb

open TtdGdbserver.Target TtdGdbserver.Text TtdGdbserver.Transition TtdGdbserver.Ttd

/-! ## The state of a trace and its commands -/

/-- What the sessions on one trace hand on. -/
structure TraceState (σ : Type) where
  process : TtdProcess σ
  checkpoints : CheckpointTable

/-- What may happen between a checkpoint and the restart to it. -/
inductive TraceOp where
  | target (op : Op)
  | qrrcmd (args : Text)
  | vrun (args : List (List UInt8))

/-- The operation takes a checkpoint. -/
def TraceOp.takesCheckpoint : TraceOp → Bool
  | .qrrcmd args => (parseQrrcmdArgs args).head? == some checkpointCommand
  | _ => false

/-- The operation deletes the checkpoint with the given id, if it is there. -/
def TraceOp.deletes (id : UInt64) : TraceOp → Bool
  | .qrrcmd args =>
      let args := parseQrrcmdArgs args
      args.head? == some deleteCheckpointCommand && deletedId args == some id
  | _ => false

/-! ## What a command does to the table -/

section Table

variable {T : Type} [CommandTarget T]

theorem handleQrrcmd_checkpoint (backend : T) (checkpoints : CheckpointTable) {args : Text}
    (takes : (parseQrrcmdArgs args).head? = some checkpointCommand) :
    handleQrrcmd backend checkpoints args =
      (checkpoints.insert (CommandTarget.position backend)
        ((parseQrrcmdArgs args).getD 1 [])).map Prod.snd id := by
  have other : checkpointCommand ≠ whenCommand := by decide
  simp only [handleQrrcmd, takes, if_neg other, if_true]

theorem handleQrrcmd_when (backend : T) (checkpoints : CheckpointTable) {args : Text}
    (asks : (parseQrrcmdArgs args).head? = some whenCommand) :
    handleQrrcmd backend checkpoints args =
      (formatPosition (CommandTarget.position backend), checkpoints) := by
  simp only [handleQrrcmd, asks, if_true]

/-- A command that takes no checkpoint leaves the counter alone, and every
checkpoint that it does not delete. -/
theorem handleQrrcmd_keeps (backend : T) (checkpoints : CheckpointTable) {args : Text}
    (other : (TraceOp.qrrcmd args).takesCheckpoint = false) {id : UInt64}
    (kept : (TraceOp.qrrcmd args).deletes id = false) :
    (handleQrrcmd backend checkpoints args).2.nextId = checkpoints.nextId ∧
      (handleQrrcmd backend checkpoints args).2.position id = checkpoints.position id := by
  simp only [TraceOp.takesCheckpoint, TraceOp.deletes] at other kept
  simp only [handleQrrcmd]
  cases named : (parseQrrcmdArgs args).head? with
  | none => exact ⟨rfl, rfl⟩
  | some command =>
      rw [named] at other kept
      dsimp only
      split
      case isTrue => exact ⟨rfl, rfl⟩
      case isFalse =>
        split
        case isTrue takes => simp [takes] at other
        case isFalse =>
          split
          case isTrue => exact ⟨rfl, rfl⟩
          case isFalse =>
            split
            case isFalse => exact ⟨rfl, rfl⟩
            case isTrue deletes =>
              cases removed : deletedId (parseQrrcmdArgs args) with
              | none => exact ⟨rfl, rfl⟩
              | some victim =>
                  have different : id ≠ victim := by
                    rintro rfl
                    simp [deletes, removed] at kept
                  have after := checkpoints.position_remove victim id
                  rw [if_neg different] at after
                  dsimp only
                  rcases answered : checkpoints.remove victim with ⟨found, rest⟩
                  have counter := checkpoints.nextId_remove victim
                  rw [answered] at after counter
                  cases found <;> exact ⟨counter, after⟩

end Table

namespace TraceState

variable {σ : Type} [SdkCursor σ]

/-- One operation; `none` if its loop runs out of fuel. -/
def perform (state : TraceState σ) : TraceOp → Option (TraceState σ)
  | .target op => (state.process.perform op).map fun process => { state with process := process }
  | .qrrcmd args =>
      some { state with checkpoints := (handleQrrcmd state.process state.checkpoints args).2 }
  | .vrun args =>
      some { state with process := (handleVrun state.process state.checkpoints args).2 }

/-- A trace that was just opened has no checkpoints. -/
def openTrace (metadata : TraceMetadata) (persistent step : σ) (probe : Option σ) :
    TraceState σ :=
  ⟨.openTrace metadata persistent step probe, .new⟩

/-! ## Checkpoints over a run -/

/-- The checkpoint is in the table, and the counter stands that many ids after
it. -/
structure Keeps (id : UInt64) (pos : TtdPosition) (taken : Nat) (state : TraceState σ) :
    Prop where
  saved : state.checkpoints.position id = some pos
  counter : state.checkpoints.nextId = id + 1 + UInt64.ofNat taken

omit [SdkCursor σ] in
/-- The counter comes round to an id after as many ids as there are. -/
theorem Keeps.nextId_ne {id : UInt64} {pos : TtdPosition} {taken : Nat} {state : TraceState σ}
    (keeps : Keeps id pos taken state) (short : taken + 1 < 2 ^ 64) :
    state.checkpoints.nextId ≠ id := by
  intro round
  have counter := congrArg UInt64.toNat (keeps.counter.symm.trans round)
  have bound := id.toNat_lt
  simp only [UInt64.toNat_add, UInt64.toNat_ofNat', UInt64.toNat_one] at counter
  omega

theorem Keeps.perform {id : UInt64} {pos : TtdPosition} {taken : Nat} {state next : TraceState σ}
    (keeps : Keeps id pos taken state) {op : TraceOp} (kept : op.deletes id = false)
    (short : taken + [op].countP TraceOp.takesCheckpoint < 2 ^ 64 - 1)
    (performed : state.perform op = some next) :
    Keeps id pos (taken + [op].countP TraceOp.takesCheckpoint) next := by
  cases op with
  | target op =>
      obtain ⟨process, -, rfl⟩ := Option.map_eq_some_iff.mp performed
      exact ⟨keeps.saved, keeps.counter⟩
  | vrun args =>
      cases performed
      exact ⟨keeps.saved, keeps.counter⟩
  | qrrcmd args =>
      cases performed
      cases takes : (TraceOp.qrrcmd args).takesCheckpoint with
      | false =>
          obtain ⟨counter, saved⟩ :=
            handleQrrcmd_keeps state.process state.checkpoints takes kept
          rw [List.countP_singleton, takes]
          exact ⟨saved.trans keeps.saved, counter.trans keeps.counter⟩
      | true =>
          rw [List.countP_singleton, takes, if_pos rfl] at short ⊢
          have different : id ≠ state.checkpoints.nextId :=
            (keeps.nextId_ne (by omega)).symm
          have inserts := handleQrrcmd_checkpoint state.process state.checkpoints
            (beq_iff_eq.mp takes)
          refine ⟨?_, ?_⟩
          · rw [inserts, Prod.map_snd, id_eq, CheckpointTable.position_insert, if_neg different]
            exact keeps.saved
          · rw [inserts, Prod.map_snd, id_eq, CheckpointTable.nextId_insert, keeps.counter,
              UInt64.ofNat_add, ← UInt64.add_assoc]
            rfl

/-- A checkpoint survives every run that does not delete it. -/
theorem Keeps.of_run {id : UInt64} {pos : TtdPosition} {start finish : TraceState σ}
    {ops : List TraceOp} (keeps : Keeps id pos 0 start)
    (run : Run TraceState.perform (fun _ op => op.deletes id = false) start ops finish)
    (short : ops.countP TraceOp.takesCheckpoint < 2 ^ 64 - 1) :
    Keeps id pos (ops.countP TraceOp.takesCheckpoint) finish := by
  induction run with
  | nil => exact keeps
  | snoc _ kept performed ih =>
      rw [List.countP_append] at short ⊢
      exact (ih (by omega)).perform kept short performed

/-! ## The process over a run -/

/-- The caches are right, the engine lands on the debug position when asked to,
and the trace is the one that was opened. -/
structure Sound [LawfulSdkCursor σ] (metadata : TraceMetadata) (state : TraceState σ) :
    Prop where
  coherent : state.process.Coherent
  settled : state.process.Settled
  lifetime : state.process.lifetime = metadata.lifetime
  metadata : state.process.metadata = metadata

theorem handleVrun_goto (process : TtdProcess σ) (checkpoints : CheckpointTable)
    (args : List (List UInt8)) :
    (handleVrun process checkpoints args).2 = process ∨
      ∃ target, (handleVrun process checkpoints args).2 = (process.goto target).2 := by
  unfold handleVrun
  dsimp only
  split
  case h_1 => exact .inl rfl
  case h_2 target _ => exact .inr ⟨target, rfl⟩

variable [LawfulSdkCursor σ] {metadata : TraceMetadata}

theorem Sound.target {state : TraceState σ} (sound : Sound metadata state) {op : Op}
    {process : TtdProcess σ} (performed : state.process.perform op = some process)
    (checkpoints : CheckpointTable) : Sound metadata ⟨process, checkpoints⟩ := by
  obtain ⟨lifetime, trace⟩ := TtdProcess.tables_perform performed
  exact ⟨sound.coherent.perform performed, sound.settled.perform performed,
    lifetime.trans sound.lifetime, trace.trans sound.metadata⟩

theorem Sound.perform {state next : TraceState σ} (sound : Sound metadata state) {op : TraceOp}
    (performed : state.perform op = some next) : Sound metadata next := by
  cases op with
  | target op =>
      obtain ⟨process, ran, rfl⟩ := Option.map_eq_some_iff.mp performed
      exact sound.target ran _
  | qrrcmd args =>
      cases performed
      exact ⟨sound.coherent, sound.settled, sound.lifetime, sound.metadata⟩
  | vrun args =>
      cases performed
      rcases handleVrun_goto state.process state.checkpoints args with stayed | ⟨target, moved⟩
      · rw [stayed]
        exact sound
      · have jumped : state.process.perform (.goto target) = some (state.process.goto target).2 :=
          rfl
        rw [moved]
        exact sound.target jumped _

theorem Sound.of_run {start finish : TraceState σ} (sound : Sound metadata start)
    {guard : TraceState σ → TraceOp → Prop} {ops : List TraceOp}
    (run : Run TraceState.perform guard start ops finish) : Sound metadata finish :=
  run.invariant sound fun before _ performed => before.perform performed

end TraceState

/-! ## Which positions are restored -/

section Restores

variable {σ : Type} [SdkCursor σ]

/-- The debug position lies in the lifetime of the trace. -/
def WithinLifetime (process : TtdProcess σ) : Prop :=
  process.lifetime.1 ≤ process.position ∧ process.position ≤ process.lifetime.2

/-- The restart succeeds, leads to the saved position, and explicit queries are
answered there as they were. -/
structure Restores (saved : TtdProcess σ) (state : TraceState σ) (argument : Text) : Prop where
  succeeds : (handleVrun state.process state.checkpoints [asBytes argument]).1 = .ok ()
  position : (handleVrun state.process state.checkpoints [asBytes argument]).2.position =
    saved.position
  answers : ∀ query : Query, query.isExplicit = true →
    ((handleVrun state.process state.checkpoints [asBytes argument]).2.ask query).1 =
      (saved.ask query).1

variable [LawfulSdkCursor σ] {metadata : TraceMetadata}

/-- Clamping and rounding return to the positions within the lifetime, and to
no other. -/
theorem round_clampPosition_iff {first last position : TtdPosition}
    (firstExact : LawfulSdkCursor.round σ first = first)
    (lastExact : LawfulSdkCursor.round σ last = last)
    (exact : LawfulSdkCursor.round σ position = position) :
    LawfulSdkCursor.round σ (TtdProcess.clampPosition position first last) = position ↔
      first ≤ position ∧ position ≤ last := by
  unfold TtdProcess.clampPosition
  by_cases early : position < first
  · rw [if_pos early, firstExact]
    exact ⟨fun same => absurd same (ne_of_gt early),
      fun within => absurd within.1 (not_le.mpr early)⟩
  · rw [if_neg early]
    by_cases late : last < position
    · rw [if_pos late, lastExact]
      exact ⟨fun same => absurd same (ne_of_lt late),
        fun within => absurd within.2 (not_le.mpr late)⟩
    · rw [if_neg late, exact]
      exact ⟨fun _ => ⟨not_lt.mp early, not_lt.mp late⟩, fun _ => rfl⟩

/-- A restart that jumps to the saved position restores it if the clamping lets
it. -/
theorem restores_iff {saved state : TraceState σ} {argument : Text}
    (firstExact : LawfulSdkCursor.round σ metadata.firstPosition = metadata.firstPosition)
    (lastExact : LawfulSdkCursor.round σ metadata.lastPosition = metadata.lastPosition)
    (before : saved.Sound metadata) (now : state.Sound metadata)
    (jumps : handleVrun state.process state.checkpoints [asBytes argument] =
      CommandTarget.goto state.process saved.process.position) :
    Restores saved.process state argument ↔ WithinLifetime saved.process := by
  have landed := now.coherent.position_goto saved.process.position
  have restored := round_clampPosition_iff (σ := σ) firstExact lastExact before.settled
  rw [now.lifetime] at landed
  rw [WithinLifetime, before.lifetime]
  constructor
  · intro restores
    have back := restores.position
    rw [jumps] at back
    exact restored.mp (landed.symm.trans back)
  · intro within
    have back : (state.process.goto saved.process.position).2.position = saved.process.position :=
      landed.trans (restored.mpr within)
    have moved := now.target
      (show state.process.perform (.goto saved.process.position) = _ from rfl) state.checkpoints
    refine ⟨?_, ?_, ?_⟩
    · rw [jumps]
      rfl
    · rw [jumps]
      exact back
    · intro query explicit
      rw [jumps]
      exact moved.coherent.ask_explicit before.coherent back
        (moved.metadata.trans before.metadata.symm) explicit

end Restores

/-- After every run on an opened trace and every later run, a restart from a
checkpoint that is still there, or from the text of `when`, restores the state
in which it was taken exactly if its position lies within the lifetime. -/
theorem restart_restores_iff {σ : Type} [SdkCursor σ] [LawfulSdkCursor σ]
    (metadata : TraceMetadata) (persistent step : σ) (probe : Option σ)
    (ends : ∀ bound ∈ [metadata.firstPosition, metadata.lastPosition],
      ∃ cursor : σ, SdkCursor.getPosition cursor = bound)
    {before : List TraceOp} {saved : TraceState σ}
    (reached : Run TraceState.perform AnyStep (.openTrace metadata persistent step probe) before
      saved) :
    (∀ (args : Text) (taken : TraceState σ) (later : List TraceOp) (current : TraceState σ),
      (TraceOp.qrrcmd args).takesCheckpoint = true →
      saved.perform (.qrrcmd args) = some taken →
      Run TraceState.perform (fun _ op => op.deletes saved.checkpoints.nextId = false) taken
        later current →
      later.countP TraceOp.takesCheckpoint < 2 ^ 64 - 1 →
      (Restores saved.process current (checkpointArgument saved.checkpoints.nextId) ↔
        WithinLifetime saved.process)) ∧
    ∀ (args : Text) (later : List TraceOp) (current : TraceState σ),
      (parseQrrcmdArgs args).head? = some whenCommand →
      Run TraceState.perform AnyStep saved later current →
      (Restores saved.process current (handleQrrcmd saved.process saved.checkpoints args).1 ↔
        WithinLifetime saved.process) := by
  have exact (bound : TtdPosition)
      (mem : bound ∈ [metadata.firstPosition, metadata.lastPosition]) :
      LawfulSdkCursor.round σ bound = bound := by
    obtain ⟨cursor, rfl⟩ := ends bound mem
    exact LawfulSdkCursor.round_getPosition cursor
  have firstExact := exact metadata.firstPosition (by simp)
  have lastExact := exact metadata.lastPosition (by simp)
  have opened : (TraceState.openTrace metadata persistent step probe).Sound metadata :=
    ⟨TtdProcess.coherent_openTrace metadata persistent step probe, firstExact, rfl, rfl⟩
  have sound := opened.of_run reached
  constructor
  · intro args taken later current takes performed run short
    have inserts := handleQrrcmd_checkpoint saved.process saved.checkpoints (beq_iff_eq.mp takes)
    have keeps : taken.Keeps saved.checkpoints.nextId saved.process.position 0 := by
      cases performed
      refine ⟨?_, ?_⟩
      · rw [inserts, Prod.map_snd, id_eq, CheckpointTable.position_insert, if_pos rfl]
        rfl
      · rw [inserts]
        simp
    exact restores_iff firstExact lastExact sound ((sound.perform performed).of_run run)
      (handleVrun_checkpointArgument _ _ (keeps.of_run run short).saved)
  · intro args later current asks run
    rw [handleQrrcmd_when saved.process saved.checkpoints asks]
    exact restores_iff firstExact lastExact sound (sound.of_run run)
      (handleVrun_formatPosition _ _ saved.process.position)

/-- The packet of `checkpoint`. -/
def checkpointArgs : Text := ":checkpoint:-1:61".toList

/-- The packet of `when`. -/
def whenArgs : Text := ":when:-1".toList

/-- A trace with one thread whose single steps land on the given positions. -/
def steppingTrace (landings : List TtdPosition) (reason : UInt8) : TraceState ScriptedCursor :=
  .openTrace (.new [⟨1, 1⟩] [] ⟨1, 0⟩ ⟨9, 0⟩) ⟨⟨0, 0⟩, []⟩
    ⟨⟨0, 0⟩, landings.map fun landing =>
      ⟨[], landing, { (default : ReplayOutcome) with stopReason := reason }⟩⟩ none

/-- The engine reports the exit of the process one step past the last position,
and a restart from a checkpoint there ends at the last position. -/
theorem exitingTrace_not_restored :
    ∃ saved taken : TraceState ScriptedCursor,
      exec TraceState.perform (steppingTrace [⟨9, 1⟩] 7) [.target (.exec .step 1)] =
        some saved ∧
      saved.perform (.qrrcmd checkpointArgs) = some taken ∧
      (handleVrun taken.process taken.checkpoints
        [asBytes (checkpointArgument saved.checkpoints.nextId)]).1 = .ok () ∧
      ¬Restores saved.process taken (checkpointArgument saved.checkpoints.nextId) := by
  obtain ⟨saved, executed⟩ := Option.isSome_iff_exists.mp
    (show (exec TraceState.perform (steppingTrace [⟨9, 1⟩] 7)
      [.target (.exec .step 1)]).isSome from by decide +kernel)
  obtain ⟨taken, performed⟩ := Option.isSome_iff_exists.mp
    (show (saved.perform (.qrrcmd checkpointArgs)).isSome from rfl)
  have positions : ((exec TraceState.perform (steppingTrace [⟨9, 1⟩] 7)
      [.target (.exec .step 1)]).bind fun saved =>
        (saved.perform (.qrrcmd checkpointArgs)).map fun taken =>
          let restarted := handleVrun taken.process taken.checkpoints
            [asBytes (checkpointArgument saved.checkpoints.nextId)]
          (restarted.1.isOk, restarted.2.position, saved.process.position)) =
      some (true, ⟨9, 0⟩, ⟨9, 1⟩) := by
    decide +kernel
  rw [executed, Option.bind_some, performed, Option.map_some] at positions
  obtain ⟨succeeded, ended, began⟩ : _ ∧ _ ∧ _ := by
    simpa only [Option.some.injEq, Prod.mk.injEq] using positions
  refine ⟨saved, taken, executed, performed, ?_, ?_⟩
  · cases outcome : (handleVrun taken.process taken.checkpoints
        [asBytes (checkpointArgument saved.checkpoints.nextId)]).1 with
    | ok value => rfl
    | error error => simp [outcome, Except.isOk, Except.toBool] at succeeded
  · intro restores
    have same := ended.symm.trans (restores.position.trans began)
    exact absurd same (by decide)

/-- A step to a position within the lifetime. -/
def savedState : TraceState ScriptedCursor :=
  (exec TraceState.perform (steppingTrace [⟨2, 1⟩, ⟨2, 2⟩] 5) [.target (.exec .step 1)]).get
    (by decide +kernel)

/-- The trace right after a checkpoint was taken. -/
def takenState : TraceState ScriptedCursor :=
  (savedState.perform (.qrrcmd checkpointArgs)).get rfl

/-- Between the checkpoint and the restart come a breakpoint, another step,
another checkpoint and its deletion. -/
def restartOps : List TraceOp :=
  [.target (.breakpoint (.setBreakpoint 0x1000 none)), .target (.exec .step 1),
    .qrrcmd checkpointArgs, .qrrcmd ":delete checkpoint:-1:32".toList]

/-- The trace some operations later. -/
def currentState : TraceState ScriptedCursor :=
  (exec (restrict TraceState.perform fun _ op =>
    op.deletes savedState.checkpoints.nextId = false) takenState restartOps).get
      (by decide +kernel)

theorem savedState_restored :
    Restores savedState.process currentState (checkpointArgument savedState.checkpoints.nextId) ∧
      Restores savedState.process currentState
        (handleQrrcmd savedState.process savedState.checkpoints whenArgs).1 := by
  have reached : exec TraceState.perform (steppingTrace [⟨2, 1⟩, ⟨2, 2⟩] 5)
      [.target (.exec .step 1)] = some savedState := (Option.some_get _).symm
  have taken : savedState.perform (.qrrcmd checkpointArgs) = some takenState :=
    (Option.some_get _).symm
  have later := run_of_exec_restrict (show exec (restrict TraceState.perform fun _ op =>
    op.deletes savedState.checkpoints.nextId = false) takenState restartOps =
      some currentState from (Option.some_get _).symm)
  have within : WithinLifetime savedState.process := by
    have places : savedState.process.lifetime = (⟨1, 0⟩, ⟨9, 0⟩) ∧
        savedState.process.position = ⟨2, 1⟩ := by
      constructor <;> decide +kernel
    rw [WithinLifetime, places.1, places.2]
    decide +kernel
  have restores := restart_restores_iff (σ := ScriptedCursor) _ _ _ _
    (fun bound _ => ⟨⟨bound, []⟩, rfl⟩) (run_of_exec reached)
  refine ⟨(restores.1 checkpointArgs _ _ _ (by decide +kernel) taken later
    (by decide +kernel)).mpr within, ?_⟩
  exact (restores.2 whenArgs _ _ (by decide +kernel)
    (.trans (.snoc .nil trivial taken) (later.mono fun _ _ _ => trivial))).mpr within

end TtdGdbserver.Gdb
