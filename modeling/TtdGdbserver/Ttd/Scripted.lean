import TtdGdbserver.Ttd.Cursor

/-!
# A scripted engine

Cursors whose replay calls follow a script.  They satisfy the laws the target
relies on, so the laws are consistent, and they can play any sequence of hits,
landing positions and outcomes.
-/

namespace TtdGdbserver.Ttd

open TtdGdbserver.Transition

/-- What one replay call does: the hits it reports whatever it is told, where it
lands and how it ends. -/
structure Reaction where
  hits : List WatchpointHit
  landing : TtdPosition
  outcome : ReplayOutcome

/-- A cursor with the reactions to its next replay calls. -/
structure ScriptedCursor where
  at_ : TtdPosition
  script : List Reaction

namespace ScriptedCursor

/-- Report the hits in order, then end. -/
def report {ρ : Type} (hits : List WatchpointHit) (result : ρ) :
    Dialogue WatchpointHit Bool ρ :=
  hits.foldr (fun hit rest => .ask hit fun _ => rest) (.done result)

/-- An exhausted script fails without moving. -/
def replay (cursor : ScriptedCursor) (_ : ReplayRequest) :
    Dialogue WatchpointHit Bool (ScriptedCursor × ReplayOutcome) :=
  match cursor.script with
  | [] => .done (cursor, { (default : ReplayOutcome) with stopReason := 255 })
  | reaction :: script =>
      report reaction.hits (⟨reaction.landing, script⟩, reaction.outcome)

/-- One thread, whose memory shows the step count everywhere. -/
def view (cursor : ScriptedCursor) : CursorView where
  queryMemory _ size := (List.replicate size cursor.at_.steps.toUInt8, size)
  queryMemoryWithRanges address size _ :=
    ⟨List.replicate size cursor.at_.steps.toUInt8, size,
      [⟨address, UInt64.ofNat size, cursor.at_.sequence⟩], 1⟩
  threadInfo := ⟨1, 1⟩
  activeThreadCount := 1
  activeThreadAt _ := ⟨⟨1, 1⟩, cursor.at_⟩
  tebAddress _ := 0
  amd64Context _ := List.replicate 648 0

instance : SdkCursor ScriptedCursor where
  architecture := 9
  getPosition := at_
  setPosition cursor position := { cursor with at_ := position }
  replay := replay
  setEventMask cursor _ := cursor
  setExceptionMask cursor _ := cursor
  addMemoryWatchpoint cursor _ _ _ _ := (true, cursor)
  removeMemoryWatchpoint cursor _ _ _ _ := (true, cursor)
  view := view

instance : LawfulSdkCursor ScriptedCursor where
  round := id
  getPosition_setPosition _ _ := rfl
  round_getPosition _ := rfl
  getPosition_setEventMask _ _ := rfl
  getPosition_setExceptionMask _ _ := rfl
  getPosition_addMemoryWatchpoint _ _ _ _ _ := rfl
  getPosition_removeMemoryWatchpoint _ _ _ _ _ := rfl
  view_congr first second same := by
    have positions : first.at_ = second.at_ := same
    simp only [SdkCursor.view, view, positions]

end ScriptedCursor

end TtdGdbserver.Ttd
